import MiniMarkup.Markup.Key
import MiniMarkup.Markup.Writer

/-! # Start tags

The conditional attribute comes first, then those of the loop, then the remaining attributes as written. -/

namespace MiniMarkup
open Writer

/-- Tags that go by another name in markup. -/
def renamedTags : List (String × String) :=
  [("template", "block")]

def markupTag (name : String) : String :=
  (renamedTags.lookup name).getD name

/-- Writes the control attribute of a branch, with its condition where it tests one. -/
def Conditional.write (conditional : Conditional) : Writer Unit :=
  match conditional.kind with
  | .when => test "if"
  | .elseWhen => test "elif"
  | .otherwise => control "else"
where
  test (name : String) : Writer Unit := do
    let condition ← required .missingCondition conditional.span conditional.condition
    control name
    quotedMustache condition

/-- A control attribute with a value, which may be empty, or nothing where there is none. -/
def controlWith? (name : String) : Option String → Writer Unit
  | none => pure ()
  | some value => do
      control name
      quoted value

/-- Writes the loop's attributes and gives back what is left of the element's own. -/
def Loop.write (loop : Loop) (attributes : List Attribute) : Writer KeySplit := do
  let source ← required .missingLoopSource loop.span loop.source
  control "for"
  quotedMustache source
  controlWith? "for-item" loop.item
  controlWith? "for-index" loop.index
  let split := KeySplit.ofAttributes attributes
  controlWith? "key" (split.binding.bind Directive.loopKey)
  return split

/-- A binding becomes an attribute named by its argument. No other directive leaves a trace. -/
def Directive.write (directive : Directive) : Writer Unit :=
  match directive.kind, directive.argumentName with
  | .bind, some name => do
      let value ← required .missingBinding directive.span directive.expression
      push " "
      push name
      quotedMustache value
  | _, _ => pure ()

def Attribute.write : Attribute → Writer Unit
  | .plain name none _ => do
      push " "
      push name
  | .plain name (some value) _ => do
      push " "
      push name
      push "="
      push value
  | .directive inner => inner.write

def writeAttributes : List Attribute → Writer Unit
  | [] => pure ()
  | first :: rest => do
      first.write
      writeAttributes rest

/-- A start tag up to its closing bracket. -/
def StartTag.write (start : StartTag) : Writer Unit := do
  push "<"
  push (markupTag start.name)
  if let some conditional := start.conditional then
    conditional.write
  match start.loop with
  | none => writeAttributes start.attributes
  | some loop => writeAttributes (← loop.write start.attributes).rest

end MiniMarkup
