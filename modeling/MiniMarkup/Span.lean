namespace MiniMarkup

/-- A place in a template's text. The offset counts bytes from 0, line and column count from 1. -/
structure Position where
  offset : UInt32
  line : UInt32
  column : UInt32
  deriving DecidableEq, Repr

/-- The first place of every template. -/
def Position.origin : Position := ⟨0, 1, 1⟩

/-- The part of a template's text from `start` up to `stop`, with a copy of that text. -/
structure Span where
  start : Position
  stop : Position
  source : String
  deriving DecidableEq, Repr

namespace Span

/-- The span of a construct that no template's text holds. -/
def nowhere : Span := ⟨.origin, .origin, ""⟩

def isNowhere (span : Span) : Bool := span == nowhere

@[simp] theorem isNowhere_iff {span : Span} : span.isNowhere = true ↔ span = nowhere := by
  simp [isNowhere]

/-- `span`, or `fallback` where that is nowhere. -/
def orElse (span fallback : Span) : Span :=
  if span.isNowhere then fallback else span

@[simp] theorem nowhere_orElse (fallback : Span) : nowhere.orElse fallback = fallback := by
  simp [orElse]

theorem orElse_of_ne {span fallback : Span} (known : span ≠ nowhere) : span.orElse fallback = span := by
  simp [orElse, known]

end Span

end MiniMarkup
