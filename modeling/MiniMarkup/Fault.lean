import MiniMarkup.Template.Node

/-! # Faults

A fault ends the writing of a template. It says what was wrong and, when that is known, where. -/

namespace MiniMarkup

namespace Fault

inductive Kind where
  | unexpectedNode | missingInterpolation | missingCondition | missingLoopSource | missingBinding
  deriving DecidableEq, Repr

namespace Kind

def all : List Kind :=
  [unexpectedNode, missingInterpolation, missingCondition, missingLoopSource, missingBinding]

def name : Kind → String
  | unexpectedNode => "UnexpectedNode"
  | missingInterpolation => "MissingInterpolationExpression"
  | missingCondition => "MissingIfCondition"
  | missingLoopSource => "MissingForSource"
  | missingBinding => "MissingBindExpression"

def code : Kind → Nat
  | unexpectedNode => 80
  | missingInterpolation => 81
  | missingCondition => 82
  | missingLoopSource => 83
  | missingBinding => 84

def message : Kind → String
  | unexpectedNode => "Unexpected node in mini-program markup generation."
  | missingInterpolation => "Interpolation is missing its expression."
  | missingCondition => "v-if/v-else-if branch is missing its condition."
  | missingLoopSource => "v-for is missing its source expression."
  | missingBinding => "v-bind is missing its expression."

end Kind

/-- What a fault reports: its kind alone, or the kind of the node that has no markup. -/
inductive Cause where
  | plain (kind : Kind)
  | node (kind : Node.Kind)
  deriving DecidableEq, Repr

namespace Cause

def kind : Cause → Kind
  | plain kind => kind
  | node _ => .unexpectedNode

def message : Cause → String
  | plain kind => kind.message
  | node kind => Kind.unexpectedNode.message ++ " (" ++ kind.name ++ ")"

end Cause

end Fault

structure Fault where
  cause : Fault.Cause
  /-- Where the fault lies, unless that is unknown. -/
  span : Option Span
  deriving DecidableEq, Repr

namespace Fault

/-- A fault at `span`. Its place is unknown where that is nowhere. -/
def of (cause : Cause) (span : Span) : Fault :=
  ⟨cause, if span.isNowhere then none else some span⟩

def kind (fault : Fault) : Kind := fault.cause.kind

/-- The line and column of a known place, in decimal. -/
def place : Option Span → String
  | none => ""
  | some span => " (" ++ span.start.line.toNat.repr ++ ":" ++ span.start.column.toNat.repr ++ ")"

def message (fault : Fault) : String :=
  fault.cause.message ++ place fault.span

theorem of_nowhere (cause : Cause) : Fault.of cause .nowhere = ⟨cause, none⟩ := by
  simp [Fault.of]

theorem of_known (cause : Cause) {span : Span} (known : span ≠ .nowhere) :
    Fault.of cause span = ⟨cause, some span⟩ := by
  simp [Fault.of, known]

end Fault

end MiniMarkup
