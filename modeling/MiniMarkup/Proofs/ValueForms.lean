import MiniMarkup.Proofs.OptionsForms

/-!
# Names, places and assets in JSON

A value that must be given whole is read from each of its forms and from nothing else. A name stands alone or
over `null`; a record is an object with its members among others, or an array of just them in order
(`record?_holds`). What is written is one of these forms, and a value read from any of them is written in that one.
-/

namespace MiniMarkup
open Json

/-! ## Forms of records -/

namespace Json

/-- The record has these members: an object by name, with any others, and an array by place, with no others. -/
inductive Holds (fields : List (String × Json)) : Json → Prop where
  | byName (members : List (String × Json)) (given : ∀ field ∈ fields, members.lookup field.1 = some field.2) :
      Holds fields (.obj members)
  | byPlace : Holds fields (.arr (fields.map Prod.snd))

theorem lookup_zip_iff {fields : List (String × Json)} (apart : (fields.map Prod.fst).Nodup) {items : List Json}
    (fit : items.length ≤ fields.length) :
    (∀ field ∈ fields, ((fields.map Prod.fst).zip items).lookup field.1 = some field.2) ↔
      items = fields.map Prod.snd := by
  induction fields generalizing items with
  | nil => simpa using fit
  | cons first fields ih =>
      obtain ⟨name, json⟩ := first
      cases items with
      | nil =>
          refine iff_of_false (fun given => ?_) (List.cons_ne_nil _ _).symm
          have found := given (name, json) List.mem_cons_self
          cases found
      | cons item items =>
          obtain ⟨other, apart⟩ := List.nodup_cons.1 apart
          have later (field) (member : field ∈ fields) :
              ((name :: fields.map Prod.fst).zip (item :: items)).lookup field.1 =
                ((fields.map Prod.fst).zip items).lookup field.1 := by
            have differs : field.1 ≠ name := fun same => other (List.mem_map.2 ⟨field, member, same⟩)
            rw [List.zip_cons_cons, List.lookup_cons, beq_false_of_ne differs]
          rw [List.map_cons, List.map_cons, List.forall_mem_cons, List.zip_cons_cons, List.lookup_cons_self,
            Option.some_inj, List.cons.injEq, ← ih apart (Nat.le_of_succ_le_succ fit), ← List.zip_cons_cons]
          exact and_congr_right fun _ => forall₂_congr fun field member => by rw [later field member]

theorem record?_holds (fields : List (String × Json)) (apart : (fields.map Prod.fst).Nodup) (json : Json) :
    (∃ member, json.record? (fields.map Prod.fst) = some member ∧ ∀ field ∈ fields, member field.1 = some field.2) ↔
      json.Holds fields := by
  simp only [record?_eq_some_iff]
  constructor
  · rintro ⟨member, members | ⟨items, fit⟩, given⟩
    · exact .byName members given
    · rw [List.length_map] at fit
      obtain rfl := (lookup_zip_iff apart fit).1 given
      exact .byPlace
  · rintro (⟨members, given⟩ | _)
    · exact ⟨_, .byName members, given⟩
    · have fit : (fields.map Prod.snd).length ≤ (fields.map Prod.fst).length := by simp
      exact ⟨_, .byPlace _ fit, (lookup_zip_iff apart (Nat.le_of_eq (List.length_map _))).2 rfl⟩

theorem holds_obj {fields : List (String × Json)} (apart : (fields.map Prod.fst).Nodup) :
    Holds fields (.obj fields) := by
  have given := (lookup_zip_iff apart (Nat.le_of_eq (List.length_map _))).2 rfl
  rw [← List.zip_of_prod rfl rfl] at given
  exact .byName fields given

end Json

/-! ## Forms of values -/

/-- What is written reads back, and a value is read from its forms alone. No form stands for two values, and all
forms of a value are written back alike. -/
structure ReadsBack {α : Type} (read : Json → Option α) (write : α → Json) (form : Json → α → Prop) : Prop where
  written (value : α) : read (write value) = some value
  exact (json : Json) (value : α) : read json = some value ↔ form json value
  apart (json : Json) (value other : α) : form json value → form json other → value = other
  rewritten (json : Json) (value : α) : form json value → (read json).map write = some (write value)

theorem ReadsBack.of_forms {α : Type} {read : Json → Option α} {write : α → Json} {form : Json → α → Prop}
    (exact : ∀ json value, read json = some value ↔ form json value) (written : ∀ value, form (write value) value) :
    ReadsBack read write form where
  written value := (exact _ _).2 (written value)
  exact := exact
  apart json value other first second := by
    have read := ((exact json value).2 first).symm.trans ((exact json other).2 second)
    exact Option.some.inj read
  rewritten json value given := by rw [(exact json value).2 given, Option.map_some]

theorem ReadsBack.form {α : Type} {read : Json → Option α} {write : α → Json} {form : Json → α → Prop}
    (reads : ReadsBack read write form) (value : α) : form (write value) value :=
  (reads.exact _ _).1 (reads.written value)

/-! ## Names -/

section
variable {α : Type} {values : List α} {name : α → String}
  (apart : ∀ first ∈ values, ∀ second ∈ values, name first = name second → first = second)
include apart

theorem oneOf?_name_eq_some_iff {json : Json} {value : α} :
    oneOf? values ([name ·]) json = some value ↔ value ∈ values ∧ json.NamedBy [name value] := by
  apply oneOf?_eq_some_iff
  intro first firstMember second secondMember shared firstNamed secondNamed
  rw [List.mem_singleton] at firstNamed secondNamed
  exact apart first firstMember second secondMember (firstNamed.symm.trans secondNamed)

theorem ReadsBack.of_names (all : ∀ value, value ∈ values) :
    ReadsBack (oneOf? values ([name ·])) (fun value => .str (name value)) fun json value =>
      json.NamedBy [name value] := by
  apply ReadsBack.of_forms
  · intro json value
    rw [oneOf?_name_eq_some_iff apart]
    exact and_iff_right (all value)
  · intro value
    exact ⟨name value, List.mem_cons_self, .inl rfl⟩

end

theorem Asset.Kind.readsBack : ReadsBack ofJson? toJson fun json kind => json.NamedBy [kind.name] :=
  .of_names (by decide) fun kind => by cases kind; decide

theorem Conditional.Kind.readsBack : ReadsBack ofJson? toJson fun json kind => json.NamedBy [kind.name] :=
  .of_names (by decide) fun kind => by cases kind <;> decide

theorem Node.Kind.readsBack : ReadsBack ofJson? toJson fun json kind => json.NamedBy [kind.name] :=
  .of_names (by decide) fun kind => by cases kind <;> decide

theorem Fault.Kind.readsBack : ReadsBack ofJson? toJson fun json kind => json.NamedBy [kind.name] :=
  .of_names (by decide) fun kind => by cases kind <;> decide

theorem Platform.readsBack : ReadsBack ofJson? toJson fun json platform =>
    json.NamedBy [platform.name, "mp-" ++ platform.name] :=
  .of_forms ofJson?_eq_some_iff fun platform => ⟨platform.name, List.mem_cons_self, .inl rfl⟩

namespace Directive.Kind

/-- The name of a directive outside the fixed list stands under a name of its own, so that it may be any text. -/
def Form (json : Json) : Directive.Kind → Prop
  | .custom name => json = .obj [("custom", .str name)]
  | kind => json.NamedBy [kind.name]

theorem custom_notMem_fixed (name : String) : custom name ∉ fixed := by
  simp [fixed]

theorem names_apart : ∀ first ∈ fixed, ∀ second ∈ fixed, first.name = second.name → first = second := by
  decide

theorem ofJson?_eq_custom_iff {json : Json} {name : String} :
    ofJson? json = some (.custom name) ↔ json = .obj [("custom", .str name)] := by
  fun_cases ofJson? json with
  | case1 given => simp
  | case2 _ other =>
      rw [oneOf?_name_eq_some_iff names_apart]
      exact iff_of_false (fun named => custom_notMem_fixed name named.1) (other name)

theorem ofJson?_eq_fixed_iff {json : Json} {kind : Directive.Kind} (member : kind ∈ fixed) :
    ofJson? json = some kind ↔ json.NamedBy [kind.name] := by
  fun_cases ofJson? json with
  | case1 given =>
      have other : Directive.Kind.custom given ≠ kind := fun same => custom_notMem_fixed given (same ▸ member)
      simp [NamedBy, other]
  | case2 =>
      rw [oneOf?_name_eq_some_iff names_apart]
      exact and_iff_right member

theorem readsBack : ReadsBack ofJson? toJson Form := by
  apply ReadsBack.of_forms
  · intro json kind
    cases kind with
    | custom name => exact ofJson?_eq_custom_iff
    | bind | event | model | visible | html | text | slot | once | memo => exact ofJson?_eq_fixed_iff (by decide)
  · intro kind
    cases kind with
    | custom name => rfl
    | bind | event | model | visible | html | text | slot | once | memo => exact ⟨_, List.mem_cons_self, .inl rfl⟩

end Directive.Kind

/-! ## Records -/

theorem word?_eq_some_iff (json : Json) (value : UInt32) : json.word? = some value ↔ json = .int value.toNat := by
  fun_cases word? json with
  | case1 number small =>
      rw [Option.some_inj, Json.int.injEq, ← UInt32.toNat_inj, UInt32.toNat_ofNat_of_lt' small]
      exact Int.ofNat_inj.symm
  | case2 number large =>
      refine iff_of_false nofun fun same => large ?_
      rw [Json.int.injEq] at same
      rw [Int.ofNat_inj.1 same]
      exact value.toNat_lt_size
  | case3 _ other => exact iff_of_false nofun (other value.toNat)

section
variable {first second third : String} (apart : [first, second, third].Nodup)
include apart

theorem threeMembers_holds (json x y z : Json) :
    (∃ member, json.record? [first, second, third] = some member ∧
      member first = some x ∧ member second = some y ∧ member third = some z) ↔
      json.Holds [(first, x), (second, y), (third, z)] := by
  have held := record?_holds [(first, x), (second, y), (third, z)] apart json
  simpa only [List.map_cons, List.map_nil, List.forall_mem_cons, List.not_mem_nil, false_imp_iff, implies_true,
    and_true] using held

/-- A reader of three members takes a record when it takes each of them. -/
theorem threeMembers_eq_some_iff {α β γ δ : Type} {make : α → β → γ → δ}
    (injective : ∀ {a b c a' b' c'}, make a b c = make a' b' c' → a = a' ∧ b = b' ∧ c = c')
    {readFirst : Json → Option α} {readSecond : Json → Option β} {readThird : Json → Option γ} {json : Json}
    {a : α} {b : β} {c : γ} :
    (do
      let member ← json.record? [first, second, third]
      let a ← (member first).bind readFirst
      let b ← (member second).bind readSecond
      let c ← (member third).bind readThird
      return make a b c) = some (make a b c) ↔
    ∃ x y z, readFirst x = some a ∧ readSecond y = some b ∧ readThird z = some c ∧
      json.Holds [(first, x), (second, y), (third, z)] := by
  simp only [Option.bind_eq_bind, Option.bind_eq_some_iff, Option.pure_def, Option.some_inj, ← threeMembers_holds apart]
  constructor
  · rintro ⟨member, record, _, ⟨x, givenX, isFirst⟩, _, ⟨y, givenY, isSecond⟩, _, ⟨z, givenZ, isThird⟩, made⟩
    obtain ⟨rfl, rfl, rfl⟩ := injective made
    exact ⟨x, y, z, isFirst, isSecond, isThird, member, record, givenX, givenY, givenZ⟩
  · rintro ⟨x, y, z, isFirst, isSecond, isThird, member, record, givenX, givenY, givenZ⟩
    exact ⟨member, record, a, ⟨x, givenX, isFirst⟩, b, ⟨y, givenY, isSecond⟩, c, ⟨z, givenZ, isThird⟩, rfl⟩

end

def Position.Form (json : Json) (position : Position) : Prop :=
  json.Holds [("offset", .int position.offset.toNat), ("line", .int position.line.toNat),
    ("column", .int position.column.toNat)]

def Span.Form (json : Json) (span : Span) : Prop :=
  ∃ start stop, Position.Form start span.start ∧ Position.Form stop span.stop ∧
    json.Holds [("start", start), ("end", stop), ("source", .str span.source)]

def Asset.Form (json : Json) (asset : Asset) : Prop :=
  ∃ kind, NamedBy kind [asset.kind.name] ∧
    json.Holds [("type", kind), ("fileName", .str asset.fileName), ("source", .str asset.source)]

theorem Position.readsBack : ReadsBack ofJson? toJson Form := by
  apply ReadsBack.of_forms
  · intro json position
    refine (threeMembers_eq_some_iff (by decide) Position.mk.inj).trans ?_
    simp only [word?_eq_some_iff, exists_and_left, exists_eq_left, Form]
  · intro position
    exact holds_obj (show ["offset", "line", "column"].Nodup by decide)

theorem Span.readsBack : ReadsBack ofJson? toJson Form := by
  apply ReadsBack.of_forms
  · intro json span
    refine (threeMembers_eq_some_iff (by decide) Span.mk.inj).trans ?_
    simp only [Position.readsBack.exact, str?_eq_some_iff, exists_and_left, exists_eq_left, Form]
  · intro span
    exact ⟨_, _, Position.readsBack.form span.start, Position.readsBack.form span.stop,
      holds_obj (show ["start", "end", "source"].Nodup by decide)⟩

theorem Asset.readsBack : ReadsBack ofJson? toJson Form := by
  apply ReadsBack.of_forms
  · intro json asset
    refine (threeMembers_eq_some_iff (by decide) Asset.mk.inj).trans ?_
    simp only [Asset.Kind.readsBack.exact, str?_eq_some_iff, exists_and_left, exists_eq_left, Form]
  · intro asset
    exact ⟨_, Asset.Kind.readsBack.form asset.kind, holds_obj (show ["type", "fileName", "source"].Nodup by decide)⟩

theorem Position.exists_ofJson?_iff {json : Json} : (∃ position, Position.ofJson? json = some position) ↔
    ∃ offset line column : Nat, offset < UInt32.size ∧ line < UInt32.size ∧ column < UInt32.size ∧
      json.Holds [("offset", .int offset), ("line", .int line), ("column", .int column)] := by
  simp only [Position.readsBack.exact, Form]
  constructor
  · rintro ⟨⟨offset, line, column⟩, held⟩
    exact ⟨_, _, _, offset.toNat_lt_size, line.toNat_lt_size, column.toNat_lt_size, held⟩
  · rintro ⟨offset, line, column, first, second, third, held⟩
    refine ⟨⟨.ofNat offset, .ofNat line, .ofNat column⟩, ?_⟩
    rwa [UInt32.toNat_ofNat_of_lt' first, UInt32.toNat_ofNat_of_lt' second, UInt32.toNat_ofNat_of_lt' third]

/-! ## The statement -/

theorem forms_read_back :
    ReadsBack Directive.Kind.ofJson? Directive.Kind.toJson Directive.Kind.Form ∧
    ReadsBack Conditional.Kind.ofJson? Conditional.Kind.toJson (fun json kind => json.NamedBy [kind.name]) ∧
    ReadsBack Node.Kind.ofJson? Node.Kind.toJson (fun json kind => json.NamedBy [kind.name]) ∧
    ReadsBack Fault.Kind.ofJson? Fault.Kind.toJson (fun json kind => json.NamedBy [kind.name]) ∧
    ReadsBack Asset.Kind.ofJson? Asset.Kind.toJson (fun json kind => json.NamedBy [kind.name]) ∧
    ReadsBack Platform.ofJson? Platform.toJson
      (fun json platform => json.NamedBy [platform.name, "mp-" ++ platform.name]) ∧
    ReadsBack Position.ofJson? Position.toJson Position.Form ∧
    ReadsBack Span.ofJson? Span.toJson Span.Form ∧
    ReadsBack Asset.ofJson? Asset.toJson Asset.Form ∧
    ∀ json, (∃ position, Position.ofJson? json = some position) ↔
      ∃ offset line column : Nat, offset < UInt32.size ∧ line < UInt32.size ∧ column < UInt32.size ∧
        json.Holds [("offset", .int offset), ("line", .int line), ("column", .int column)] :=
  ⟨Directive.Kind.readsBack, Conditional.Kind.readsBack, Node.Kind.readsBack, Fault.Kind.readsBack,
    Asset.Kind.readsBack, Platform.readsBack, Position.readsBack, Span.readsBack, Asset.readsBack,
    fun _ => Position.exists_ofJson?_iff⟩

example : Directive.Kind.ofJson? (.obj [("custom", .str "bind")]) = some (.custom "bind") := rfl

example : Span.ofJson? (.arr [.obj [("line", .int 1), ("note", .null), ("offset", .int 0), ("column", .int 1)],
    .arr [.int 4294967295, .int 1, .int 1], .str "view"]) = some ⟨.origin, ⟨4294967295, 1, 1⟩, "view"⟩ := rfl

end MiniMarkup
