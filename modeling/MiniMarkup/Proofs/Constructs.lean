import MiniMarkup.Markup.Tree

/-!
# The constructs of a tree

What a construct misses, binds and is called, read off the construct alone. The writer finds it in steps of its own,
which come to the same.

* `requiredText_eq`: the check of a required expression reports what is missing.
* `Directive.write_eq`: a directive is written just if it binds an attribute.
* `loopKey?_eq`, `rest_ofAttributes`: a loop splits off the first key binding.
* `markupTag_name`: a tag is written under its name in markup.
-/

namespace MiniMarkup
open Writer

/-! ## Required expressions -/

def expressionText (expression : Option Expression) : String :=
  (expression.map Expression.text).getD ""

/-- A span, unless it is the empty one where every text starts, which tells no place. -/
def Span.known? (span : Span) : Option Span :=
  if span = ⟨⟨0, 1, 1⟩, ⟨0, 1, 1⟩, ""⟩ then none else some span

theorem Span.known?_nowhere : Span.nowhere.known? = none := rfl

theorem Span.known?_of_ne {span : Span} (known : span ≠ .nowhere) : span.known? = some span :=
  if_neg known

theorem Fault.of_eq (cause : Fault.Cause) (span : Span) : Fault.of cause span = ⟨cause, span.known?⟩ := by
  by_cases unknown : span = .nowhere
  · rw [unknown, Fault.of_nowhere, Span.known?_nowhere]
  · rw [Fault.of_known cause unknown, Span.known?_of_ne unknown]

theorem Fault.of_orElse (cause : Fault.Cause) (span holder : Span) :
    Fault.of cause (span.orElse holder) = ⟨cause, span.known?.or holder.known?⟩ := by
  rw [Fault.of_eq]
  by_cases unknown : span = .nowhere
  · rw [unknown, Span.nowhere_orElse, Span.known?_nowhere, Option.none_or]
  · rw [Span.orElse_of_ne unknown, Span.known?_of_ne unknown, Option.some_or]

/-- The fault of a holder whose expression is missing or blank. It lies at the expression, or at the holder where the
place of the expression is not known. -/
def requiredFault (kind : Fault.Kind) (holder : Span) : Option Expression → Option Fault
  | none => some ⟨.plain kind, holder.known?⟩
  | some expression =>
      if expression.text.toList.all Text.isWhiteSpace then
        some ⟨.plain kind, expression.span.known?.or holder.known?⟩
      else none

section
variable (kind : Fault.Kind) (holder : Span) (expression : Expression)

theorem requiredFault_none : requiredFault kind holder none = some (.of (.plain kind) holder) := by
  rw [requiredFault, Fault.of_eq]

theorem requiredFault_some : requiredFault kind holder (some expression) =
    if expression.isBlank then some (.of (.plain kind) (expression.span.orElse holder)) else none := by
  rw [requiredFault, Fault.of_orElse, Expression.isBlank, Text.isBlank]

end

theorem requiredText_eq (kind : Fault.Kind) (holder : Span) (expression : Option Expression) :
    requiredText kind holder expression = match requiredFault kind holder expression with
      | none => .ok (expressionText expression)
      | some fault => .error fault := by
  cases expression with
  | none => rw [requiredText_none, requiredFault_none]
  | some expression =>
      rw [requiredText_some, requiredFault_some]
      split <;> rfl

def Conditional.fault (conditional : Conditional) : Option Fault :=
  requiredFault .missingCondition conditional.span conditional.condition

def Loop.fault (loop : Loop) : Option Fault :=
  requiredFault .missingLoopSource loop.span loop.source

def Directive.fault (directive : Directive) : Option Fault :=
  requiredFault .missingBinding directive.span directive.expression

/-! ## Bound attributes -/

/-- The attribute that a directive binds. Only a non-empty piece of text names one. -/
def Directive.boundName? (directive : Directive) : Option String :=
  match directive.kind, directive.argument with
  | .bind, some (.simple name _ _) => if name = "" then none else some name
  | _, _ => none

theorem Directive.boundName?_eq_some_iff {directive : Directive} {name : String} :
    directive.boundName? = some name ↔ directive.kind = .bind ∧ directive.argumentName = some name := by
  rw [Directive.argumentName_eq_some_iff]
  fun_cases Directive.boundName? directive with
  | case1 isStatic span kind argument => simp_all
  | case2 found isStatic span kind argument visible =>
      simp only [kind, argument, true_and, Option.some_inj, Expression.simple.injEq]
      constructor
      · rintro rfl
        exact ⟨visible, isStatic, span, rfl, rfl, rfl⟩
      · rintro ⟨-, _, _, rfl, -⟩
        rfl
  | case3 other =>
      constructor
      · nofun
      · rintro ⟨kind, -, isStatic, span, argument⟩
        exact (other _ _ _ kind argument).elim

theorem Directive.bindsKey_iff {directive : Directive} :
    (Attribute.directive directive).BindsKey ↔ directive.boundName? = some "key" := by
  rw [Directive.boundName?_eq_some_iff, ← Directive.binds_iff, ← Attribute.isKeyBinding_iff, Attribute.isKeyBinding,
    Attribute.keyBinding]
  cases directive.binds "key" <;> simp

theorem Directive.bindsKey_congr {directive other : Directive} (same : directive.boundName? = other.boundName?) :
    (Attribute.directive directive).BindsKey ↔ (Attribute.directive other).BindsKey := by
  rw [Directive.bindsKey_iff, Directive.bindsKey_iff, same]

theorem Directive.write_eq (directive : Directive) : directive.write = match directive.boundName? with
    | none => pure ()
    | some name => (do
        let value ← required .missingBinding directive.span directive.expression
        push " "
        push name
        quotedMustache value) := by
  cases bound : directive.boundName? with
  | none =>
      rw [Directive.write]
      split
      · rename_i name kind named
        rw [Directive.boundName?_eq_some_iff.2 ⟨kind, named⟩] at bound
        cases bound
      · rfl
  | some name =>
      obtain ⟨kind, named⟩ := Directive.boundName?_eq_some_iff.1 bound
      rw [Directive.write, kind, named]

/-! ## Loop keys -/

def Attribute.expression? : Attribute → Option Expression
  | .plain _ _ _ => none
  | .directive inner => inner.expression

/-- The key that stands for the text which the first binding of `key` binds. -/
def loopKey? (attributes : List Attribute) : Option String :=
  ((attributes.find? (·.BindsKey)).bind Attribute.expression?).bind fun expression => loopKey expression.text

theorem loopKey?_cons {item : Attribute} (own : ¬item.BindsKey) (rest : List Attribute) :
    loopKey? (item :: rest) = loopKey? rest := by
  have later : List.find? (·.BindsKey) (item :: rest) = rest.find? (·.BindsKey) :=
    List.find?_cons_of_neg (by simpa using own)
  rw [loopKey?, later, loopKey?]

theorem loopKey?_cons_key {item : Attribute} (key : item.BindsKey) (rest : List Attribute) :
    loopKey? (item :: rest) = item.expression?.bind fun expression => loopKey expression.text := by
  have first : List.find? (·.BindsKey) (item :: rest) = some item :=
    List.find?_cons_of_pos (by simpa using key)
  rw [loopKey?, first, Option.bind_some]

theorem Directive.loopKey_eq (binding : Directive) :
    binding.loopKey = binding.expression.bind fun expression => MiniMarkup.loopKey expression.text := by
  rw [Directive.loopKey]
  cases binding.expression <;> rfl

theorem loopKey?_eq (attributes : List Attribute) :
    loopKey? attributes = (attributes.findSome? Attribute.keyBinding).bind Directive.loopKey := by
  induction attributes with
  | nil => rfl
  | cons item rest ih =>
      rw [List.findSome?_cons]
      by_cases key : item.BindsKey
      · obtain ⟨binding, -, -, rfl, -⟩ := id key
        rw [loopKey?_cons_key key, Attribute.keyBinding_of_bindsKey key]
        exact binding.loopKey_eq.symm
      · rw [loopKey?_cons key, Attribute.keyBinding_eq_none key]
        exact ih

/-! ## Remaining attributes -/

/-- What is left of an element's attributes: a loop takes the first key binding. -/
def remainingAttributes (inLoop : Bool) (attributes : List Attribute) : List Attribute :=
  if inLoop then attributes.eraseP (·.BindsKey) else attributes

theorem remainingAttributes_cons {inLoop : Bool} {item : Attribute} (own : inLoop = true → ¬item.BindsKey)
    (rest : List Attribute) : remainingAttributes inLoop (item :: rest) = item :: remainingAttributes inLoop rest := by
  cases inLoop with
  | false => rfl
  | true =>
      rw [remainingAttributes, if_pos rfl, List.eraseP_cons_of_neg (by simpa using own rfl)]
      rfl

theorem remainingAttributes_cons_key {item : Attribute} (key : item.BindsKey) (rest : List Attribute) :
    remainingAttributes true (item :: rest) = rest := by
  rw [remainingAttributes, if_pos rfl, List.eraseP_cons_of_pos (by simpa using key)]

theorem remainingAttributes_outside (attributes : List Attribute) :
    remainingAttributes false attributes = attributes := rfl

theorem rest_ofAttributes (attributes : List Attribute) :
    (KeySplit.ofAttributes attributes).rest = remainingAttributes true attributes :=
  congrArg (attributes.eraseP ·) (funext Attribute.decide_bindsKey).symm

def StartTag.ownAttributes (start : StartTag) : List Attribute :=
  remainingAttributes start.loop.isSome start.attributes

/-! ## Tags -/

/-- The tag as it is written: there are no templates in markup, only blocks. -/
def StartTag.tag (start : StartTag) : String :=
  if start.name = "template" then "block" else start.name

theorem markupTag_name (start : StartTag) : markupTag start.name = start.tag := by
  rw [StartTag.tag]
  by_cases renamed : start.name = "template"
  · rw [if_pos renamed, renamed]
    rfl
  · have kept : renamedTags.lookup start.name = none := by simpa [renamedTags, List.lookup_eq_none_iff] using renamed
    rw [if_neg renamed, markupTag, kept, Option.getD_none]

end MiniMarkup
