import MiniMarkup.Template.Attribute

/-! # Template trees

Conditional chains are grouped, and conditions and loops are set apart from the other attributes. -/

namespace MiniMarkup

/-- A branch tests its condition, tests it after the branches before have failed, or tests nothing. -/
inductive Conditional.Kind where
  | when | elseWhen | otherwise
  deriving DecidableEq, Repr

namespace Conditional.Kind

def all : List Conditional.Kind :=
  [when, elseWhen, otherwise]

def name : Conditional.Kind → String
  | when => "if"
  | elseWhen => "else-if"
  | otherwise => "else"

end Conditional.Kind

/-- The place of an element in its conditional chain. Only `otherwise` needs no condition. -/
structure Conditional where
  kind : Conditional.Kind
  condition : Option Expression := none
  span : Span := .nowhere

/-- What an element is repeated over, and the names of an item and its index, which may be empty. -/
structure Loop where
  source : Expression
  item : Option String := none
  index : Option String := none
  span : Span := .nowhere

structure StartTag where
  name : String
  attributes : List Attribute := []
  selfClosing : Bool := false
  conditional : Option Conditional := none
  loop : Option Loop := none

mutual

structure Element where
  start : StartTag
  children : List Node
  span : Span

inductive Node where
  | element (inner : Element)
  | text (content : String) (span : Span)
  | comment (content : String) (span : Span)
  | interpolation (expression : Expression) (span : Span)
  | chain (branches : List Branch) (span : Span)
  | branch (inner : Branch)
  /-- Text and interpolations merged for another kind of output. -/
  | compound (parts : List Part) (span : Span)

structure Branch where
  element : Element
  span : Span

end

inductive Node.Kind where
  | element | text | comment | interpolation | compound | chain | branch
  deriving DecidableEq, Repr

namespace Node.Kind

def all : List Node.Kind :=
  [element, text, comment, interpolation, compound, chain, branch]

def name : Node.Kind → String
  | element => "Element"
  | text => "Text"
  | comment => "Comment"
  | interpolation => "Interpolation"
  | compound => "CompoundExpression"
  | chain => "If"
  | branch => "IfBranch"

def number : Node.Kind → Nat
  | element => 1
  | text => 2
  | comment => 3
  | interpolation => 5
  | compound => 8
  | chain => 9
  | branch => 10

end Node.Kind

namespace Node

def kind : Node → Node.Kind
  | .element _ => .element
  | .text _ _ => .text
  | .comment _ _ => .comment
  | .interpolation _ _ => .interpolation
  | .chain _ _ => .chain
  | .branch _ => .branch
  | .compound _ _ => .compound

def span : Node → Span
  | .element inner => inner.span
  | .branch inner => inner.span
  | .text _ place | .comment _ place | .interpolation _ place | .chain _ place | .compound _ place => place

end Node

structure Template where
  children : List Node
  source : String := ""
  span : Span := .nowhere

end MiniMarkup
