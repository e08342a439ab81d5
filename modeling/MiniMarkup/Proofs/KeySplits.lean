import Mathlib.Data.List.InsertIdx
import Mathlib.Data.List.Nodup
import MiniMarkup.Proofs.Denotation
import MiniMarkup.Proofs.Faults

/-!
# Splitting off key bindings

A split takes the first binding of `key` out of the attributes and leaves all the others where they are
(`split_iff`), at the positions that it tells (`Splits.map_restPositions`). Split after split takes the bindings in
their order until only the other attributes are left (`splitAll_eq`).
-/

namespace MiniMarkup

/-! ## Key bindings -/

namespace Attribute

/-- Attributes that bind no key, although `key` stands in them. -/
inductive ResemblesKey : Attribute → Prop where
  | plain (value : Option String) (span : Span) : ResemblesKey (.plain "key" value span)
  | otherKind {directive : Directive} {isStatic : Bool} {span : Span} (kind : directive.kind ≠ .bind)
      (argument : directive.argument = some (.simple "key" isStatic span)) : ResemblesKey (.directive directive)
  | compound {directive : Directive} {parts : List Part} {span : Span}
      (argument : directive.argument = some (.compound parts span))
      (text : (Expression.compound parts span).text = "key") : ResemblesKey (.directive directive)

theorem ResemblesKey.not_bindsKey {item : Attribute} (resembles : item.ResemblesKey) : ¬item.BindsKey := by
  rintro ⟨directive, isStatic, span, rfl, kind, argument⟩
  cases resembles with
  | otherKind other => exact other kind
  | compound compound =>
      rw [argument] at compound
      cases compound

end Attribute

namespace KeySplit

/-! ## One split -/

/-- What it is to split the first binding of `key` off, where there is one. -/
inductive Splits : List Attribute → KeySplit → Prop where
  | first {before behind : List Attribute} {binding : Directive} (own : ∀ item ∈ before, ¬item.BindsKey)
      (key : (Attribute.directive binding).BindsKey) :
      Splits (before ++ .directive binding :: behind) ⟨some before.length, some binding, before ++ behind⟩
  | absent {attributes : List Attribute} (own : ∀ item ∈ attributes, ¬item.BindsKey) :
      Splits attributes ⟨none, none, attributes⟩

theorem ofAttributes_of_first {before behind : List Attribute} {binding : Directive}
    (own : ∀ item ∈ before, ¬item.BindsKey) (key : (Attribute.directive binding).BindsKey) :
    ofAttributes (before ++ .directive binding :: behind) = ⟨some before.length, some binding, before ++ behind⟩ := by
  have hoisted := Attribute.isKeyBinding_iff.2 key
  have ahead (item) (member : item ∈ before) := Attribute.isKeyBinding_eq_false (own item member)
  have position : (before ++ .directive binding :: behind).findIdx? Attribute.isKeyBinding = some before.length := by
    rw [List.findIdx?_append, List.findIdx?_eq_none_iff.2 ahead, Option.none_or, List.findIdx?_cons, if_pos hoisted,
      Option.map_some, Nat.zero_add]
  have found : (before ++ .directive binding :: behind).findSome? Attribute.keyBinding = some binding := by
    rw [List.findSome?_append,
      List.findSome?_eq_none_iff.2 fun item member => Attribute.keyBinding_eq_none (own item member), Option.none_or,
      List.findSome?_cons, Attribute.keyBinding_of_bindsKey key]
  have rest : (before ++ .directive binding :: behind).eraseP Attribute.isKeyBinding = before ++ behind := by
    rw [List.eraseP_append_right _ fun item member => Bool.eq_false_iff.1 (ahead item member),
      List.eraseP_cons_of_pos hoisted]
  rw [ofAttributes, position, found, rest]

theorem ofAttributes_of_absent {attributes : List Attribute} (own : ∀ item ∈ attributes, ¬item.BindsKey) :
    ofAttributes attributes = ⟨none, none, attributes⟩ := by
  have keyless (item) (member : item ∈ attributes) := Attribute.isKeyBinding_eq_false (own item member)
  rw [ofAttributes, List.findIdx?_eq_none_iff.2 keyless,
    List.findSome?_eq_none_iff.2 fun item member => Attribute.keyBinding_eq_none (own item member),
    List.eraseP_of_forall_not fun item member => Bool.eq_false_iff.1 (keyless item member)]

theorem split_iff {attributes : List Attribute} {split : KeySplit} :
    ofAttributes attributes = split ↔ Splits attributes split := by
  constructor
  · rintro rfl
    by_cases found : ∃ item ∈ attributes, item.BindsKey
    · obtain ⟨item, member, key⟩ := found
      obtain ⟨first, before, behind, own, hoisted, rfl, -⟩ :=
        List.exists_of_eraseP member (Attribute.isKeyBinding_iff.2 key)
      rw [Attribute.isKeyBinding_iff] at hoisted
      simp only [Attribute.isKeyBinding_iff] at own
      obtain ⟨binding, -, -, rfl, -⟩ := id hoisted
      rw [ofAttributes_of_first own hoisted]
      exact .first own hoisted
    · have own : ∀ item ∈ attributes, ¬item.BindsKey := fun item member key => found ⟨item, member, key⟩
      rw [ofAttributes_of_absent own]
      exact .absent own
  · rintro (⟨own, key⟩ | own)
    · exact ofAttributes_of_first own key
    · exact ofAttributes_of_absent own

theorem insertIdx_length (before behind : List Attribute) (item : Attribute) :
    (before ++ behind).insertIdx before.length item = before ++ item :: behind := by
  induction before with
  | nil => rfl
  | cons first before ih => exact congrArg (first :: ·) ih

theorem filter_zipIdx_ne {items : List Attribute} {start position : Nat}
    (outside : position < start ∨ start + items.length ≤ position) :
    ((items.zipIdx start).filter fun entry => some entry.2 ≠ some position) = items.zipIdx start := by
  rw [List.filter_eq_self]
  intro entry member
  have lower := List.le_snd_of_mem_zipIdx member
  have upper := List.snd_lt_of_mem_zipIdx member
  simp only [ne_eq, Option.some_inj, decide_eq_true_eq]
  omega

section
variable {attributes : List Attribute} {split : KeySplit}

theorem Splits.exists_binding_iff (splits : Splits attributes split) :
    (∃ binding, split.binding = some binding) ↔ ∃ item ∈ attributes, item.BindsKey := by
  cases splits with
  | first own key => exact iff_of_true ⟨_, rfl⟩ ⟨_, List.mem_append_right _ List.mem_cons_self, key⟩
  | absent own => exact iff_of_false nofun fun ⟨item, member, key⟩ => own item member key

theorem Splits.rest_insertIdx (splits : Splits attributes split) {position : Nat} {binding : Directive}
    (here : split.position = some position) (found : split.binding = some binding) :
    split.rest.insertIdx position (.directive binding) = attributes ∧
      ∀ item ∈ split.rest.take position, ¬item.BindsKey := by
  cases splits with
  | first own key =>
      cases here
      cases found
      refine ⟨insertIdx_length _ _ _, ?_⟩
      rwa [List.take_left' rfl]
  | absent own => cases here

/-- A second pass that leaves out just the position found has the same rest. -/
theorem Splits.rest_eq_filter (splits : Splits attributes split) :
    split.rest = (attributes.zipIdx.filter fun entry => some entry.2 ≠ split.position).map Prod.fst := by
  cases splits with
  | first own key =>
      rw [List.zipIdx_append, Nat.zero_add, List.zipIdx_cons, List.filter_append, filter_zipIdx_ne (.inr (by omega)),
        List.filter_cons_of_neg (by simp), filter_zipIdx_ne (.inl (by omega)), List.map_append, List.zipIdx_map_fst,
        List.zipIdx_map_fst]
  | absent own =>
      have all : ∀ entry ∈ attributes.zipIdx, (decide (some entry.2 ≠ none)) = true := fun _ _ => rfl
      rw [List.filter_eq_self.2 all, List.zipIdx_map_fst]

theorem Splits.position_ne (splits : Splits attributes split) {position : Nat} {item : Attribute}
    (here : attributes[position]? = some item) (resembles : item.ResemblesKey) : split.position ≠ some position := by
  intro taken
  cases splits with
  | first own key =>
      cases taken
      rw [List.getElem?_append_right (Nat.le_refl _), Nat.sub_self, List.getElem?_cons_zero, Option.some_inj] at here
      subst here
      exact resembles.not_bindsKey key
  | absent own => cases taken

end

/-! ## Positions -/

theorem range_erase {length position : Nat} (inside : position < length) :
    (List.range length).erase position = (List.range length).eraseIdx position := by
  have erased := List.nodup_range.erase_getElem position (by rwa [List.length_range])
  rwa [List.getElem_range] at erased

theorem map_range_getElem? (attributes : List Attribute) :
    (List.range attributes.length).map (attributes[·]?) = attributes.map some := by
  apply List.ext_getElem
  · rw [List.length_map, List.length_map, List.length_range]
  · intro position here there
    rw [List.length_map] at there
    rw [List.getElem_map, List.getElem_map, List.getElem_range, List.getElem?_eq_getElem there]

/-- At the positions beside the key binding stand just the other attributes, in their order. -/
theorem Splits.map_restPositions {attributes : List Attribute} {split : KeySplit} (splits : Splits attributes split) :
    split.restPositions.map (attributes[·]?) = split.rest.map some := by
  cases splits with
  | @first before behind binding own key =>
      have length : (before ++ behind).length + 1 = (before ++ .directive binding :: behind).length := by
        simp [Nat.add_assoc]
      have inside : before.length < (before ++ .directive binding :: behind).length := by simp
      have taken : (before ++ .directive binding :: behind).eraseIdx before.length = before ++ behind := by
        rw [List.eraseIdx_append_of_length_le (Nat.le_refl _), Nat.sub_self, List.eraseIdx_cons_zero]
      simp only [restPositions]
      rw [length, range_erase inside, ← List.eraseIdx_map, map_range_getElem?, List.eraseIdx_map, taken]
  | absent own => exact map_range_getElem? attributes

/-! ## All splits -/

theorem length_rest_lt {attributes : List Attribute} {binding : Directive}
    (found : (ofAttributes attributes).binding = some binding) :
    (ofAttributes attributes).rest.length < attributes.length := by
  generalize same : ofAttributes attributes = split at found ⊢
  cases split_iff.1 same with
  | first own key => simp
  | absent own => cases found

/-- Splits off key bindings as long as one is found. -/
def splitAll (attributes : List Attribute) : List Directive × List Attribute :=
  match _found : (ofAttributes attributes).binding with
  | none => ([], (ofAttributes attributes).rest)
  | some binding =>
      let (bindings, left) := splitAll (ofAttributes attributes).rest
      (binding :: bindings, left)
termination_by attributes.length
decreasing_by exact length_rest_lt _found

theorem filter_of_own {items : List Attribute} (own : ∀ item ∈ items, ¬item.BindsKey) :
    items.filter (·.BindsKey) = [] ∧ items.filter (¬·.BindsKey) = items := by
  constructor
  · rw [List.filter_eq_nil_iff]
    intro item member key
    exact own item member (of_decide_eq_true key)
  · rw [List.filter_eq_self]
    intro item member
    exact decide_eq_true (own item member)

theorem splitAll_eq (attributes : List Attribute) :
    (splitAll attributes).1.map Attribute.directive = attributes.filter (·.BindsKey) ∧
      (splitAll attributes).2 = attributes.filter (¬·.BindsKey) := by
  fun_induction splitAll attributes with
  | case1 attributes absent =>
      generalize same : ofAttributes attributes = split at absent ⊢
      cases split_iff.1 same with
      | first own key => cases absent
      | absent own =>
          obtain ⟨noBinding, whole⟩ := filter_of_own own
          exact ⟨noBinding.symm, whole.symm⟩
  | case2 attributes binding found bindings left later ih =>
      rw [later] at ih
      generalize same : ofAttributes attributes = split at found ih
      cases split_iff.1 same with
      | first own key =>
          cases found
          obtain ⟨noBinding, whole⟩ := filter_of_own own
          rw [List.filter_append, List.filter_append, noBinding, whole] at ih
          rw [List.filter_append, List.filter_append, noBinding, whole, List.filter_cons, List.filter_cons,
            if_pos (decide_eq_true key), if_neg (by simpa using key)]
          exact ⟨congrArg (_ :: ·) ih.1, ih.2⟩
      | absent own => cases found

theorem length_splitAll (attributes : List Attribute) :
    (splitAll attributes).1.length = attributes.countP (·.BindsKey) := by
  have taken := congrArg List.length (splitAll_eq attributes).1
  rwa [List.length_map, ← List.countP_eq_length_filter] at taken

end KeySplit

/-! ## Loops -/

theorem loopKey?_of_first {before behind : List Attribute} {bound : Directive} (own : ∀ item ∈ before, ¬item.BindsKey)
    (key : (Attribute.directive bound).BindsKey) :
    loopKey? (before ++ .directive bound :: behind) = bound.expression.bind fun expression => loopKey expression.text := by
  induction before with
  | nil => exact loopKey?_cons_key key behind
  | cons item before ih =>
      obtain ⟨other, others⟩ := List.forall_mem_cons.1 own
      rw [List.cons_append, loopKey?_cons other, ih others]

theorem loopKey?_of_absent {attributes : List Attribute} (own : ∀ item ∈ attributes, ¬item.BindsKey) :
    loopKey? attributes = none := by
  induction attributes with
  | nil => rfl
  | cons item rest ih =>
      obtain ⟨other, others⟩ := List.forall_mem_cons.1 own
      rw [loopKey?_cons other, ih others]

theorem Loop.fault_eq_none_iff {loop : Loop} : loop.fault = none ↔ loop.source.isBlank = false := by
  rw [Loop.fault, requiredFault_some]
  cases loop.source.isBlank <;> simp

theorem Loop.run_write (loop : Loop) (attributes : List Attribute) (options : Options) (buffer : Buffer) :
    loop.write attributes options buffer = match loop.fault with
      | none => .ok (KeySplit.ofAttributes attributes) (buffer.push (loop.markup options attributes))
      | some fault => .error fault buffer := by
  rw [Loop.write_performs, Writer.run_bind, run_performAll, eventFaults_loopEvents, ← Loop.markup_eq]
  cases found : loop.fault with
  | none => rfl
  | some fault =>
      have before : faultless (loop.events attributes) = [] := by
        rw [Loop.events, found]
        rfl
      simp only [Option.toList_some, List.head?_cons, before, eventMarkup_nil, Buffer.push_empty]

theorem Loop.write_eq_ok_iff {loop : Loop} {attributes : List Attribute} {options : Options} {buffer after : Buffer}
    {split : KeySplit} :
    loop.write attributes options buffer = .ok split after ↔ loop.source.isBlank = false ∧
      split = KeySplit.ofAttributes attributes ∧ after = buffer.push (loop.markup options attributes) := by
  rw [Loop.run_write, ← Loop.fault_eq_none_iff]
  cases loop.fault with
  | none => simp [eq_comm]
  | some fault => simp

/-! ## The statement -/

open KeySplit

theorem key_splits_lose_nothing (attributes : List Attribute) :
    (∀ split, ofAttributes attributes = split ↔ Splits attributes split) ∧
    ((∃ binding, (ofAttributes attributes).binding = some binding) ↔ ∃ item ∈ attributes, item.BindsKey) ∧
    (ofAttributes attributes).rest = (attributes.zipIdx.filter fun entry =>
      some entry.2 ≠ (ofAttributes attributes).position).map Prod.fst ∧
    (∀ position binding, (ofAttributes attributes).position = some position →
      (ofAttributes attributes).binding = some binding →
      (ofAttributes attributes).rest.insertIdx position (.directive binding) = attributes ∧
        ∀ item ∈ (ofAttributes attributes).rest.take position, ¬item.BindsKey) ∧
    (∀ position item, attributes[position]? = some item → item.ResemblesKey →
      (ofAttributes attributes).position ≠ some position) ∧
    ((splitAll attributes).1.map Attribute.directive = attributes.filter (·.BindsKey) ∧
      (splitAll attributes).2 = attributes.filter (¬·.BindsKey)) ∧
    (splitAll attributes).1.length = attributes.countP (·.BindsKey) ∧
    (∀ item ∈ attributes, item.ResemblesKey → item ∈ (splitAll attributes).2) ∧
    ∀ loop options buffer split after, Loop.write loop attributes options buffer = .ok split after ↔
      loop.source.isBlank = false ∧ split = ofAttributes attributes ∧
        after = buffer.push (loop.markup options attributes) := by
  have splits : Splits attributes (ofAttributes attributes) := split_iff.1 rfl
  refine ⟨fun _ => split_iff, splits.exists_binding_iff, splits.rest_eq_filter, fun _ _ => splits.rest_insertIdx,
    fun _ _ => splits.position_ne, splitAll_eq attributes, length_splitAll attributes, ?_,
    fun _ _ _ _ _ => Loop.write_eq_ok_iff⟩
  intro item member resembles
  rw [(splitAll_eq attributes).2, List.mem_filter]
  exact ⟨member, decide_eq_true resembles.not_bindsKey⟩

end MiniMarkup
