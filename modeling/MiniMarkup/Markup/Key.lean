import MiniMarkup.Template.Attribute

/-! # Loop keys

A loop takes the first key binding out of its element's attributes, and names its key after the bound text. -/

namespace MiniMarkup

namespace Attribute

/-- The directive of a binding of `key`. -/
def keyBinding : Attribute → Option Directive
  | plain _ _ _ => none
  | directive inner => if inner.binds "key" then some inner else none

def isKeyBinding (item : Attribute) : Bool :=
  item.keyBinding.isSome

theorem keyBinding_eq_some_iff {item : Attribute} {binding : Directive} :
    item.keyBinding = some binding ↔ item = .directive binding ∧ binding.binds "key" = true := by
  cases item with
  | plain name value span => simp [keyBinding]
  | directive inner =>
      simp only [keyBinding, Option.ite_none_right_eq_some, Option.some.injEq, directive.injEq]
      constructor
      · rintro ⟨key, rfl⟩
        exact ⟨rfl, key⟩
      · rintro ⟨rfl, key⟩
        exact ⟨key, rfl⟩

/-- A binding whose argument is the one piece of text `key`. -/
def BindsKey (item : Attribute) : Prop :=
  ∃ directive isStatic span, item = .directive directive ∧ directive.kind = .bind ∧
    directive.argument = some (.simple "key" isStatic span)

theorem isKeyBinding_iff {item : Attribute} : item.isKeyBinding = true ↔ item.BindsKey := by
  rw [isKeyBinding, Option.isSome_iff_exists]
  simp only [keyBinding_eq_some_iff, Directive.binds_iff, Directive.argumentName_eq_some_iff]
  constructor
  · rintro ⟨directive, rfl, kind, -, isStatic, span, argument⟩
    exact ⟨directive, isStatic, span, rfl, kind, argument⟩
  · rintro ⟨directive, isStatic, span, rfl, kind, argument⟩
    exact ⟨directive, rfl, kind, by decide, isStatic, span, argument⟩

theorem isKeyBinding_eq_false {item : Attribute} (own : ¬item.BindsKey) : item.isKeyBinding = false := by
  rwa [← Bool.not_eq_true, isKeyBinding_iff]

theorem keyBinding_eq_none {item : Attribute} (own : ¬item.BindsKey) : item.keyBinding = none :=
  Option.isNone_iff_eq_none.1 (Option.isSome_eq_false_iff.1 (isKeyBinding_eq_false own))

instance : DecidablePred BindsKey := fun _ =>
  decidable_of_iff _ isKeyBinding_iff

theorem decide_bindsKey (item : Attribute) : decide item.BindsKey = item.isKeyBinding := by
  rw [Bool.eq_iff_iff, decide_eq_true_iff, isKeyBinding_iff]

theorem keyBinding_of_bindsKey {binding : Directive} (key : (Attribute.directive binding).BindsKey) :
    (Attribute.directive binding).keyBinding = some binding := by
  rw [← isKeyBinding_iff, isKeyBinding, Option.isSome_iff_exists] at key
  obtain ⟨found, key⟩ := key
  obtain ⟨same, binds⟩ := keyBinding_eq_some_iff.1 key
  exact keyBinding_eq_some_iff.2 ⟨rfl, Attribute.directive.inj same ▸ binds⟩

end Attribute

/-- The first key binding among some attributes, its position, and all the other attributes. -/
structure KeySplit where
  position : Option Nat
  binding : Option Directive
  rest : List Attribute

namespace KeySplit

def ofAttributes (attributes : List Attribute) : KeySplit where
  position := attributes.findIdx? Attribute.isKeyBinding
  binding := attributes.findSome? Attribute.keyBinding
  rest := attributes.eraseP Attribute.isKeyBinding

/-- The positions that the other attributes had beside the key binding. -/
def restPositions (split : KeySplit) : List Nat :=
  match split.position with
  | none => List.range split.rest.length
  | some position => (List.range (split.rest.length + 1)).erase position

end KeySplit

/-! ## The name of a key -/

/-- The text between the first dot and the next, or the whole text where there is no dot. -/
def secondSegment (text : String) : String :=
  match text.toList.dropWhile (· != '.') with
  | [] => text
  | _ :: behind => String.ofList (behind.takeWhile (· != '.'))

theorem secondSegment_of_no_dot {text : String} (plain : '.' ∉ text.toList) : secondSegment text = text := by
  have none : text.toList.dropWhile (· != '.') = [] := by
    rw [← List.append_nil text.toList, List.dropWhile_append_of_pos]
    · rfl
    · intro c member
      simpa using fun same : c = '.' => plain (same ▸ member)
  simp [secondSegment, none]

theorem secondSegment_of_dot {first second rest : List Char} (plain : '.' ∉ first) (segment : '.' ∉ second)
    (ended : rest.head?.all (· = '.')) :
    secondSegment (String.ofList (first ++ '.' :: (second ++ rest))) = String.ofList second := by
  have before : (first ++ '.' :: (second ++ rest)).dropWhile (· != '.') = '.' :: (second ++ rest) := by
    rw [List.dropWhile_append_of_pos]
    · simp
    · intro c member
      simpa using fun same : c = '.' => plain (same ▸ member)
  have inside : (second ++ rest).takeWhile (· != '.') = second := by
    rw [List.takeWhile_append_of_pos]
    · cases rest <;> simp_all
    · intro c member
      simpa using fun same : c = '.' => segment (same ▸ member)
  simp [secondSegment, before, inside]

/-- The key that a bound text stands for. A loop is over one item already, so that a path gives its second
segment: `id` for `item.id`. -/
def loopKey (text : String) : Option String :=
  if Text.isBlank text then none
  else if secondSegment text = "" then none
  else some (secondSegment text)

theorem loopKey_eq_some_iff {text key : String} :
    loopKey text = some key ↔ Text.isBlank text = false ∧ secondSegment text = key ∧ key ≠ "" := by
  fun_cases loopKey text <;> grind

/-- The key that a binding stands for. -/
def Directive.loopKey (binding : Directive) : Option String :=
  MiniMarkup.loopKey ((binding.expression.map Expression.text).getD "")

end MiniMarkup
