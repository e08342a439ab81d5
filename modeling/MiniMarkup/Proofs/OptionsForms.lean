import MiniMarkup.Json.Records
import MiniMarkup.Proofs.JsonForms

/-!
# Options in JSON

Options are read from any object or short array whose given members are valid, each member on its own, and those
that are not given keep their defaults (`ofJson?_eq_some_iff`).
-/

namespace MiniMarkup
open Json

/-! ## Forms of options -/

/-- `value` is what a given member stands for, or `default` where none is given. -/
def IsGiven {α : Type} (form : Json → α → Prop) (default value : α) : Option Json → Prop
  | none => value = default
  | some json => form json value

def Options.prefixForm (json : Json) (customPrefix : Option String) : Prop :=
  json = customPrefix.elim .null .str

/-- The four forms of a platform. -/
def Platform.forms (platform : Platform) : List Json :=
  [.str platform.name, .str ("mp-" ++ platform.name), .obj [(platform.name, .null)],
    .obj [("mp-" ++ platform.name, .null)]]

structure Options.ReadFrom (member : String → Option Json) (options : Options) : Prop where
  filename : IsGiven (fun json name => json = .str name) "index.wxml" options.filename (member "filename")
  platform : IsGiven (fun json platform => json.NamedBy platform.names) .weixin options.platform (member "platform")
  customPrefix : IsGiven prefixForm none options.customPrefix (member "directive")
  comments : IsGiven (fun json kept => json = .bool kept) false options.comments (member "comments")

structure Options.ValidMembers (member : String → Option Json) : Prop where
  filename : ∀ json ∈ member "filename", ∃ name, json = .str name
  platform : ∀ json ∈ member "platform", ∃ platform : Platform, json.NamedBy platform.names
  customPrefix : ∀ json ∈ member "directive", json = .null ∨ ∃ text, json = .str text
  comments : ∀ json ∈ member "comments", ∃ kept, json = .bool kept

theorem exists_isGiven {α : Type} {form : Json → α → Prop} {default : α} {given : Option Json} :
    (∃ value, IsGiven form default value given) ↔ ∀ json ∈ given, ∃ value, form json value := by
  cases given with
  | none => simp [IsGiven]
  | some json => simp [IsGiven]

/-! ## Members -/

theorem given?_eq_some_iff {α : Type} {read : Json → Option α} {form : Json → α → Prop}
    (reads : ∀ json value, read json = some value ↔ form json value) {default value : α} {given : Option Json} :
    Options.given? read default given = some value ↔ IsGiven form default value given := by
  cases given with
  | none => exact Option.some_inj.trans eq_comm
  | some json => exact reads json value

theorem str?_eq_some_iff (json : Json) (text : String) : json.str? = some text ↔ json = .str text := by
  cases json <;> simp [str?]

theorem bool?_eq_some_iff (json : Json) (value : Bool) : json.bool? = some value ↔ json = .bool value := by
  cases json <;> simp [bool?]

theorem Platform.mem_all (platform : Platform) : platform ∈ all := by
  cases platform <;> decide

theorem Platform.names_apart : ∀ first ∈ all, ∀ second ∈ all, ∀ name ∈ first.names, name ∈ second.names →
    first = second := by
  decide

theorem Platform.ofJson?_eq_some_iff (json : Json) (platform : Platform) :
    ofJson? json = some platform ↔ json.NamedBy platform.names := by
  rw [ofJson?, oneOf?_eq_some_iff names_apart]
  exact and_iff_right platform.mem_all

theorem Platform.ofJson?_of_mem_forms {platform : Platform} {form : Json} (member : form ∈ platform.forms) :
    ofJson? form = some platform := by
  rw [ofJson?_eq_some_iff, NamedBy]
  simp only [forms, List.mem_cons, List.not_mem_nil, or_false] at member
  simp only [names, List.mem_cons, List.not_mem_nil, or_false]
  rcases member with rfl | rfl | rfl | rfl
  · exact ⟨platform.name, .inl rfl, .inl rfl⟩
  · exact ⟨"mp-" ++ platform.name, .inr rfl, .inl rfl⟩
  · exact ⟨platform.name, .inl rfl, .inr rfl⟩
  · exact ⟨"mp-" ++ platform.name, .inr rfl, .inr rfl⟩

theorem nullable?_str?_eq_some_iff (json : Json) (customPrefix : Option String) :
    nullable? str? json = some customPrefix ↔ Options.prefixForm json customPrefix := by
  cases json <;> cases customPrefix <;> simp [nullable?, str?, Options.prefixForm]

/-! ## Whole options -/

namespace Options

theorem ofJson?_eq_some_iff {json : Json} {options : Options} :
    ofJson? json = some options ↔ ∃ member, Members fields json member ∧ options.ReadFrom member := by
  obtain ⟨filename, platform, customPrefix, comments⟩ := options
  unfold ofJson?
  simp only [Option.bind_eq_bind, Option.bind_eq_some_iff, Option.pure_def, Option.some.injEq, record?_eq_some_iff,
    given?_eq_some_iff str?_eq_some_iff, given?_eq_some_iff Platform.ofJson?_eq_some_iff,
    given?_eq_some_iff nullable?_str?_eq_some_iff, given?_eq_some_iff bool?_eq_some_iff]
  constructor
  · rintro ⟨member, members, _, first, _, second, _, third, _, fourth, read⟩
    cases read
    exact ⟨member, members, first, second, third, fourth⟩
  · rintro ⟨member, members, first, second, third, fourth⟩
    exact ⟨member, members, _, first, _, second, _, third, _, fourth, rfl⟩

theorem exists_readFrom_iff {member : String → Option Json} :
    (∃ options : Options, options.ReadFrom member) ↔ ValidMembers member := by
  have prefixes (json : Json) : (∃ customPrefix, prefixForm json customPrefix) ↔
      json = .null ∨ ∃ text, json = .str text := by
    rw [Option.exists]
    rfl
  constructor
  · rintro ⟨options, read⟩
    refine ⟨exists_isGiven.1 ⟨_, read.filename⟩, exists_isGiven.1 ⟨_, read.platform⟩, ?_,
      exists_isGiven.1 ⟨_, read.comments⟩⟩
    intro json given
    exact (prefixes json).1 (exists_isGiven.1 ⟨_, read.customPrefix⟩ json given)
  · intro valid
    obtain ⟨filename, first⟩ := exists_isGiven.2 valid.filename
    obtain ⟨platform, second⟩ := exists_isGiven.2 valid.platform
    obtain ⟨customPrefix, third⟩ := exists_isGiven.2 fun json given =>
      (prefixes json).2 (valid.customPrefix json given)
    obtain ⟨comments, fourth⟩ := exists_isGiven.2 valid.comments
    exact ⟨⟨filename, platform, customPrefix, comments⟩, first, second, third, fourth⟩

theorem ofJson?_arr (items : List Json) :
    ofJson? (.arr items) = if items.length ≤ 4 then ofJson? (.obj (fields.zip items)) else none := by
  have read := record?_arr fields items
  have four : fields.length = 4 := rfl
  rw [four] at read
  rw [ofJson?, read, ofJson?]
  split <;> rfl

/-- What is read depends on what each member stands for alone. -/
theorem ofJson?_congr {members others : List (String × Json)}
    (filename : members.lookup "filename" = others.lookup "filename")
    (platform : given? Platform.ofJson? defaults.platform (members.lookup "platform") =
      given? Platform.ofJson? defaults.platform (others.lookup "platform"))
    (customPrefix : given? (nullable? str?) defaults.customPrefix (members.lookup "directive") =
      given? (nullable? str?) defaults.customPrefix (others.lookup "directive"))
    (comments : members.lookup "comments" = others.lookup "comments") :
    ofJson? (.obj members) = ofJson? (.obj others) := by
  simp only [ofJson?, record?, Option.bind_eq_bind, Option.bind_some, filename, platform, customPrefix, comments]

theorem ofJson?_null_directive {members : List (String × Json)} (null : members.lookup "directive" = some .null) :
    ofJson? (.obj members) = ofJson? (.obj (members.filter fun member => member.1 ≠ "directive")) := by
  apply ofJson?_congr
  · rw [lookup_filter_ne, if_neg (by decide)]
  · rw [lookup_filter_ne, if_neg (by decide)]
  · rw [lookup_filter_ne, if_pos rfl, null]
    rfl
  · rw [lookup_filter_ne, if_neg (by decide)]

theorem ofJson?_platform {platform : Platform} {form : Json} (member : form ∈ platform.forms)
    (before behind : List (String × Json)) :
    ofJson? (.obj (before ++ ("platform", form) :: behind)) =
      ofJson? (.obj (before ++ ("platform", .str platform.name) :: behind)) := by
  have same (field : String) (other : field ≠ "platform") :
      (before ++ ("platform", form) :: behind).lookup field =
        (before ++ ("platform", .str platform.name) :: behind).lookup field := by
    rw [List.lookup_append, List.lookup_append, List.lookup_cons, List.lookup_cons, beq_false_of_ne other]
  have first : platform.forms.head? = some (.str platform.name) := rfl
  have named := Platform.ofJson?_of_mem_forms (List.mem_of_head? first)
  apply ofJson?_congr
  · exact same "filename" (by decide)
  · rw [List.lookup_append, List.lookup_append, List.lookup_cons_self, List.lookup_cons_self]
    cases before.lookup "platform" with
    | none => exact (Platform.ofJson?_of_mem_forms member).trans named.symm
    | some earlier => rfl
  · rw [same "directive" (by decide)]
  · exact same "comments" (by decide)

theorem ofJson?_toJson (options : Options) : ofJson? options.toJson = some options := by
  obtain ⟨filename, platform, customPrefix, comments⟩ := options
  rw [ofJson?_eq_some_iff]
  refine ⟨_, .byName _, rfl, ⟨platform.name, List.mem_cons_self, .inl rfl⟩, ?_, rfl⟩
  cases customPrefix <;> rfl

end Options

/-! ## The statement -/

theorem options_overlay_defaults :
    (∀ json options, Options.ofJson? json = some options ↔
      ∃ member, Members Options.fields json member ∧ options.ReadFrom member) ∧
    (∀ json, (∃ options, Options.ofJson? json = some options) ↔
      ∃ member, Members Options.fields json member ∧ Options.ValidMembers member) ∧
    (∀ items, Options.ofJson? (.arr items) =
      if items.length ≤ 4 then Options.ofJson? (.obj (Options.fields.zip items)) else none) ∧
    (∀ members, members.lookup "directive" = some .null → Options.ofJson? (.obj members) =
      Options.ofJson? (.obj (members.filter fun member => member.1 ≠ "directive"))) ∧
    (∀ platform : Platform, ∀ form ∈ platform.forms, ∀ before behind,
      Options.ofJson? (.obj (before ++ ("platform", form) :: behind)) =
        Options.ofJson? (.obj (before ++ ("platform", .str platform.name) :: behind))) ∧
    (∀ options : Options, Options.ofJson? options.toJson = some options) ∧
    Function.Injective Options.toJson := by
  refine ⟨fun _ _ => Options.ofJson?_eq_some_iff, ?_, Options.ofJson?_arr, fun _ => Options.ofJson?_null_directive,
    fun _ _ => Options.ofJson?_platform, Options.ofJson?_toJson, ?_⟩
  · intro json
    simp only [Options.ofJson?_eq_some_iff, ← Options.exists_readFrom_iff]
    constructor
    · rintro ⟨options, member, members, read⟩
      exact ⟨member, members, options, read⟩
    · rintro ⟨member, members, options, read⟩
      exact ⟨options, member, members, read⟩
  · intro options other same
    have read := Options.ofJson?_toJson options
    rw [same, Options.ofJson?_toJson] at read
    exact (Option.some.inj read).symm

theorem options_overlay_defaults_toutiao :
    let rest : List (String × Json) := [("directive", .null), ("minify", .int 1)]
    let members := ("platform", .obj [("mp-toutiao", .null)]) :: rest
    members.lookup "directive" = some .null ∧ .obj [("mp-toutiao", .null)] ∈ Platform.toutiao.forms ∧
    Options.ofJson? (.obj members) = some { platform := .toutiao } ∧
    Options.ofJson? (.obj [("platform", .obj [("mp-toutiao", .null)]), ("minify", .int 1)]) =
      some { platform := .toutiao } ∧
    Options.ofJson? (.obj (("platform", .str "toutiao") :: rest)) = some { platform := .toutiao } := by
  intro rest members
  obtain ⟨-, -, -, null, platform, -⟩ := options_overlay_defaults
  have given : members.lookup "directive" = some .null := rfl
  have form : .obj [("mp-toutiao", .null)] ∈ Platform.toutiao.forms :=
    .tail _ (.tail _ (.tail _ (.head _)))
  have read : Options.ofJson? (.obj members) = some { platform := .toutiao } := rfl
  exact ⟨given, form, read, (null members given).symm.trans read, (platform .toutiao _ form [] rest).symm.trans read⟩

end MiniMarkup
