import MiniMarkup.Template.Expression

namespace MiniMarkup

/-- What a directive is for. A kind outside the fixed list carries its own name. -/
inductive Directive.Kind where
  | bind | event | model | visible | html | text | slot | once | memo
  | custom (name : String)
  deriving DecidableEq, Repr

namespace Directive.Kind

def fixed : List Directive.Kind :=
  [bind, event, model, visible, html, text, slot, once, memo]

def name : Directive.Kind → String
  | bind => "bind"
  | event => "on"
  | model => "model"
  | visible => "show"
  | html => "html"
  | text => "text"
  | slot => "slot"
  | once => "once"
  | memo => "memo"
  | custom name => name

end Directive.Kind

structure Directive where
  kind : Directive.Kind
  argument : Option Expression := none
  expression : Option Expression := none
  modifiers : List String := []
  span : Span := .nowhere

namespace Directive

/-- Only an argument that is one non-empty piece of text names anything. -/
def argumentName (directive : Directive) : Option String :=
  match directive.argument with
  | some (.simple content _ _) => if content = "" then none else some content
  | _ => none

/-- Whether a directive binds the attribute `name`. -/
def binds (directive : Directive) (name : String) : Bool :=
  directive.kind = .bind && directive.argumentName = some name

theorem argumentName_eq_some_iff {directive : Directive} {name : String} :
    directive.argumentName = some name ↔
      name ≠ "" ∧ ∃ isStatic span, directive.argument = some (.simple name isStatic span) := by
  fun_cases Directive.argumentName directive <;> simp_all
  grind

theorem binds_iff {directive : Directive} {name : String} :
    directive.binds name = true ↔ directive.kind = .bind ∧ directive.argumentName = some name := by
  simp [binds]

end Directive

inductive Attribute where
  /-- An attribute as written: the value is raw and keeps its quotes. -/
  | plain (name : String) (value : Option String) (span : Span)
  | directive (inner : Directive)

end MiniMarkup
