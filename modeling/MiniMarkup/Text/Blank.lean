/-! # Blank text

The Unicode property `White_Space` and the texts that hold nothing else. -/

namespace MiniMarkup.Text

/-- The code points with the property `White_Space`, as closed ranges in ascending order. -/
def whiteSpaceRanges : List (Nat × Nat) :=
  [(0x09, 0x0D), (0x20, 0x20), (0x85, 0x85), (0xA0, 0xA0), (0x1680, 0x1680), (0x2000, 0x200A),
    (0x2028, 0x2029), (0x202F, 0x202F), (0x205F, 0x205F), (0x3000, 0x3000)]

def isWhiteSpace (c : Char) : Bool :=
  whiteSpaceRanges.any fun range => range.1 ≤ c.toNat && c.toNat ≤ range.2

/-- Nothing is left of a blank text once white space is cut off at both ends. -/
def isBlank (text : String) : Bool :=
  text.toList.all isWhiteSpace

@[simp] theorem isBlank_empty : isBlank "" = true := rfl

@[simp] theorem isBlank_append (left right : String) :
    isBlank (left ++ right) = (isBlank left && isBlank right) := by
  simp [isBlank]

theorem isBlank_eq_true_iff {text : String} :
    isBlank text = true ↔ ∀ c ∈ text.toList, isWhiteSpace c = true :=
  List.all_eq_true

end MiniMarkup.Text
