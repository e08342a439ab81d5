import MiniMarkup.Fault
import MiniMarkup.Markup.Buffer
import MiniMarkup.Options

/-! # Writing markup

A writer appends to one buffer and stops at the first fault. What it wrote before the fault stays. -/

namespace MiniMarkup

abbrev Writer := ReaderT Options (EStateM Fault Buffer)

namespace Writer

def push (text : String) : Writer Unit :=
  modify (·.push text)

/-- The name of a control attribute, with a space and the control prefix before it. -/
def control (name : String) : Writer Unit := do
  push " "
  push (← read).controlPrefix
  push name

/-- `content` in double braces. -/
def mustache (content : String) : Writer Unit := do
  push "\x7b\x7b"
  push content
  push "\x7d\x7d"

/-- An equals sign and `value` in quotes. -/
def quoted (value : String) : Writer Unit := do
  push "=\""
  push value
  push "\""

/-- An equals sign and `content` in double braces and quotes. -/
def quotedMustache (content : String) : Writer Unit := do
  push "=\""
  mustache content
  push "\""

def ofExcept {α : Type} : Except Fault α → Writer α
  | .ok value => pure value
  | .error fault => throw fault

/-! ## Runs -/

theorem run_pure {α : Type} (value : α) (options : Options) (buffer : Buffer) :
    (pure value : Writer α) options buffer = .ok value buffer := rfl

theorem run_bind {α β : Type} (writer : Writer α) (next : α → Writer β) (options : Options) (buffer : Buffer) :
    (writer >>= next) options buffer = match writer options buffer with
      | .ok value after => next value options after
      | .error fault after => .error fault after := by
  change EStateM.bind (writer options) (fun value => next value options) buffer = _
  unfold EStateM.bind
  cases writer options buffer <;> rfl

theorem run_push (text : String) (options : Options) (buffer : Buffer) :
    push text options buffer = .ok () (buffer.push text) := rfl

theorem run_control (name : String) (options : Options) (buffer : Buffer) :
    control name options buffer = .ok () (buffer.push (" " ++ options.controlPrefix ++ name)) := by
  rw [← Buffer.push_push, ← Buffer.push_push]
  rfl

theorem run_mustache (content : String) (options : Options) (buffer : Buffer) :
    mustache content options buffer = .ok () (buffer.push ("\x7b\x7b" ++ content ++ "\x7d\x7d")) := by
  rw [← Buffer.push_push, ← Buffer.push_push]
  rfl

theorem run_quoted (value : String) (options : Options) (buffer : Buffer) :
    quoted value options buffer = .ok () (buffer.push ("=\"" ++ value ++ "\"")) := by
  rw [← Buffer.push_push, ← Buffer.push_push]
  rfl

theorem run_quotedMustache (content : String) (options : Options) (buffer : Buffer) :
    quotedMustache content options buffer =
      .ok () (buffer.push ("=\"" ++ ("\x7b\x7b" ++ content ++ "\x7d\x7d") ++ "\"")) := by
  simp only [← Buffer.push_push]
  rfl

theorem run_ofExcept {α : Type} (result : Except Fault α) (options : Options) (buffer : Buffer) :
    ofExcept result options buffer = match result with
      | .ok value => .ok value buffer
      | .error fault => .error fault buffer := by
  cases result <;> rfl

end Writer

/-! ## Required expressions -/

/-- The text of an expression that its holder cannot do without. A missing or blank one is a fault at
its own place, or else at the place of its holder. -/
def requiredText (kind : Fault.Kind) (holder : Span) (expression : Option Expression) : Except Fault String :=
  let text := (expression.map Expression.text).getD ""
  if Text.isBlank text then
    .error (.of (.plain kind) ((expression.map Expression.span).elim holder (·.orElse holder)))
  else
    .ok text

theorem requiredText_none (kind : Fault.Kind) (holder : Span) :
    requiredText kind holder none = .error (.of (.plain kind) holder) := rfl

theorem requiredText_some (kind : Fault.Kind) (holder : Span) (expression : Expression) :
    requiredText kind holder (some expression) =
      if expression.isBlank then .error (.of (.plain kind) (expression.span.orElse holder))
      else .ok expression.text := rfl

/-- Checks an expression before anything is written with its text. -/
def Writer.required (kind : Fault.Kind) (holder : Span) (expression : Option Expression) : Writer String :=
  .ofExcept (requiredText kind holder expression)

end MiniMarkup
