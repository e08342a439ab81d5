import MiniMarkup.Json.Basic

/-!
# Forms of names and records

A variant is given by one of its names, alone or over `null`. The members of a record are given by name in an
object, or by place in an array. The readers of both take these forms and no others (`oneOf?_eq_some_iff`,
`record?_eq_some_iff`).
-/

namespace MiniMarkup.Json

/-! ## Names -/

def NamedBy (json : Json) (names : List String) : Prop :=
  ∃ name ∈ names, json = .str name ∨ json = .obj [(name, .null)]

theorem oneOf?_eq_some_iff {α : Type} {values : List α} {names : α → List String} {json : Json} {value : α}
    (apart : ∀ first ∈ values, ∀ second ∈ values, ∀ name ∈ names first, name ∈ names second → first = second) :
    oneOf? values names json = some value ↔ value ∈ values ∧ json.NamedBy (names value) := by
  rw [oneOf?, Option.bind_eq_some_iff]
  constructor
  · rintro ⟨name, variant, found⟩
    have named := List.find?_some found
    exact ⟨List.mem_of_find?_eq_some found, name, List.contains_iff_mem.1 named, variant?_eq_some_iff.1 variant⟩
  · rintro ⟨member, name, named, form⟩
    refine ⟨name, variant?_eq_some_iff.2 form, ?_⟩
    cases found : values.find? fun value => (names value).contains name with
    | none =>
        have unnamed := List.find?_eq_none.1 found value member
        exact absurd (List.contains_iff_mem.2 named) unnamed
    | some other =>
        have shared := List.find?_some found
        have same : other = value :=
          apart other (List.mem_of_find?_eq_some found) value member name (List.contains_iff_mem.1 shared) named
        rw [same]

/-! ## Members -/

inductive Members (fields : List String) : Json → (String → Option Json) → Prop where
  | byName (members : List (String × Json)) : Members fields (.obj members) fun field => members.lookup field
  | byPlace (items : List Json) (fit : items.length ≤ fields.length) :
      Members fields (.arr items) fun field => (fields.zip items).lookup field

theorem lookup_zip (fields : List String) (items : List Json) (fit : items.length ≤ fields.length) (field : String) :
    (fields.zip items).lookup field = items[fields.idxOf field]? := by
  induction fields generalizing items with
  | nil =>
      obtain rfl : items = [] := List.length_eq_zero_iff.1 (Nat.le_zero.1 fit)
      rfl
  | cons first fields ih =>
      cases items with
      | nil => rfl
      | cons item items =>
          have tail := ih items (Nat.le_of_succ_le_succ fit)
          rw [List.zip_cons_cons, List.lookup_cons, List.idxOf_cons]
          by_cases here : first = field
          · subst here
            simp
          · have later : (field == first) = false := beq_false_of_ne (Ne.symm here)
            rw [later, beq_false_of_ne here]
            exact tail

theorem record?_arr (fields : List String) (items : List Json) :
    record? fields (.arr items) =
      if items.length ≤ fields.length then record? fields (.obj (fields.zip items)) else none := by
  rw [record?, record?]
  split
  · rename_i fit
    exact congrArg some (funext fun field => (lookup_zip fields items fit field).symm)
  · rfl

theorem record?_eq_some_iff {fields : List String} {json : Json} {member : String → Option Json} :
    json.record? fields = some member ↔ Members fields json member := by
  constructor
  · intro read
    cases json with
    | obj members =>
        obtain rfl := Option.some.inj read
        exact .byName members
    | arr items =>
        rw [record?_arr] at read
        split at read
        · obtain rfl := Option.some.inj read
          exact .byPlace items ‹_›
        · cases read
    | null | bool value | int value | decimal mantissa exponent | str value => cases read
  · rintro (members | ⟨items, fit⟩)
    · rfl
    · rw [record?_arr, if_pos fit]
      rfl

theorem lookup_filter_ne (name field : String) (members : List (String × Json)) :
    (members.filter fun member => member.1 ≠ name).lookup field =
      if field = name then none else members.lookup field := by
  induction members with
  | nil => simp
  | cons member members ih =>
      obtain ⟨key, json⟩ := member
      by_cases dropped : key = name
      · subst dropped
        rw [List.filter_cons_of_neg (by simp), ih, List.lookup_cons]
        split
        · rfl
        · rename_i other
          rw [beq_false_of_ne other]
      · rw [List.filter_cons_of_pos (by simpa using dropped), List.lookup_cons, ih, List.lookup_cons]
        by_cases here : field = key
        · subst here
          rw [BEq.rfl, if_neg dropped, if_neg dropped]
        · rw [beq_false_of_ne here]

end MiniMarkup.Json
