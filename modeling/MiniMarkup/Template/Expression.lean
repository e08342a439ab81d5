import MiniMarkup.Span
import MiniMarkup.Text.Blank

/-! # Expressions

An expression is a piece of source text, or a sequence of parts that together give its text. Its text is
that of its leaves, joined from left to right (`text_eq_join_leaves`). -/

namespace MiniMarkup

mutual

inductive Expression where
  | simple (content : String) (isStatic : Bool) (span : Span)
  | compound (parts : List Part) (span : Span)

inductive Part where
  | expression (inner : Expression)
  | interpolation (inner : Expression) (span : Span)
  | text (content : String) (span : Span)
  | literal (content : String)

end

namespace Expression

def span : Expression → Span
  | simple _ _ span => span
  | compound _ span => span

mutual

/-- Writes an expression behind `out`, its parts from left to right. An interpolation is written out on its
own first. -/
def appendTo (out : String) : Expression → String
  | simple content _ _ => out ++ content
  | compound parts _ => appendParts out parts

def appendPart (out : String) : Part → String
  | .expression inner => appendTo out inner
  | .interpolation inner _ => out ++ appendTo "" inner
  | .text content _ => out ++ content
  | .literal content => out ++ content

def appendParts (out : String) : List Part → String
  | [] => out
  | part :: parts => appendParts (appendPart out part) parts

end

/-- The source text of an expression. -/
def text (expression : Expression) : String :=
  expression.appendTo ""

def isBlank (expression : Expression) : Bool :=
  Text.isBlank expression.text

/-! ## Leaves -/

mutual

/-- The pieces of source text in an expression, from left to right. -/
def leaves : Expression → List String
  | simple content _ _ => [content]
  | compound parts _ => partsLeaves parts

def partLeaves : Part → List String
  | .expression inner => leaves inner
  | .interpolation inner _ => leaves inner
  | .text content _ => [content]
  | .literal content => [content]

def partsLeaves : List Part → List String
  | [] => []
  | part :: parts => partLeaves part ++ partsLeaves parts

end

mutual

theorem appendTo_eq (out : String) : ∀ expression : Expression,
    expression.appendTo out = out ++ String.join expression.leaves
  | simple content _ _ => by simp [appendTo, leaves]
  | compound parts _ => by simpa only [appendTo, leaves] using appendParts_eq out parts

theorem appendPart_eq (out : String) : ∀ part : Part,
    appendPart out part = out ++ String.join (partLeaves part)
  | .expression inner => by simpa only [appendPart, partLeaves] using appendTo_eq out inner
  | .interpolation inner _ => by
      rw [appendPart, partLeaves, appendTo_eq "" inner, String.empty_append]
  | .text content _ => by simp [appendPart, partLeaves]
  | .literal content => by simp [appendPart, partLeaves]

theorem appendParts_eq (out : String) : ∀ parts : List Part,
    appendParts out parts = out ++ String.join (partsLeaves parts)
  | [] => by simp [appendParts, partsLeaves]
  | part :: parts => by
      rw [appendParts, appendParts_eq _ parts, appendPart_eq out part, partsLeaves, String.join_append,
        String.append_assoc]

end

theorem text_eq_join_leaves (expression : Expression) : expression.text = String.join expression.leaves := by
  simp [text, appendTo_eq]

@[simp] theorem text_simple (content : String) (isStatic : Bool) (span : Span) :
    (simple content isStatic span).text = content := by
  simp [text, appendTo]

end Expression

end MiniMarkup
