import MiniMarkup.Proofs.History
import MiniMarkup.Proofs.OptionsForms
import MiniMarkup.Proofs.Outcome

/-!
# Builds for several platforms

The template file of a platform tells its platform and its stem, as no extension is the end of another
(`templateFile_inj`). Templates built under different stems or for different platforms therefore never meet in a
store: each is found under its own file, unless it has a fault.
-/

namespace MiniMarkup
open Asset

/-! ## Template files -/

namespace Platform

theorem eq_of_extension_suffix {platform other : Platform}
    (suffix : platform.extension.toList <:+ other.extension.toList) : platform = other := by
  have apart : ∀ platform ∈ all, ∀ other ∈ all,
      platform.extension.toList <:+ other.extension.toList → platform = other := by
    decide
  exact apart platform platform.mem_all other other.mem_all suffix

theorem templateFile_inj {platform other : Platform} {stem path : String} :
    platform.templateFile stem = other.templateFile path ↔ platform = other ∧ stem = path := by
  constructor
  · intro same
    have ending : platform.extension.toList <:+ (other.templateFile path).toList := by
      rw [← same, templateFile, String.toList_append]
      exact List.suffix_append _ _
    have otherEnding : other.extension.toList <:+ (other.templateFile path).toList := by
      rw [templateFile, String.toList_append]
      exact List.suffix_append _ _
    obtain rfl : platform = other := by
      rcases List.suffix_or_suffix_of_suffix ending otherEnding with suffix | suffix
      · exact eq_of_extension_suffix suffix
      · exact (eq_of_extension_suffix suffix).symm
    rw [templateFile, templateFile, String.append_left_inj] at same
    exact ⟨rfl, same⟩
  · rintro ⟨rfl, rfl⟩
    rfl

end Platform

/-! ## Builds -/

/-- A template that is built for a platform, under a stem. -/
structure Build where
  platform : Platform
  stem : String
  template : Template

namespace Build

def target (build : Build) : Platform × String :=
  (build.platform, build.stem)

def file (build : Build) : String :=
  build.platform.templateFile build.stem

def options (build : Build) : Options :=
  .targeting build.platform build.stem

def request (build : Build) : Store.Request :=
  .deliver build.template build.options

def asset? (build : Build) : Option Asset :=
  build.template.asset? build.options

theorem file_inj {build other : Build} : build.file = other.file ↔ build.target = other.target := by
  rw [file, file, Platform.templateFile_inj, target, target, Prod.mk.injEq]

theorem file_of_asset? {build : Build} {asset : Asset} (found : build.asset? = some asset) :
    asset.fileName = build.file := by
  rw [asset?, Template.asset?] at found
  split at found
  · cases found
    rfl
  · cases found

theorem lastNamed_handed_of_apart {builds : List Build} {build : Build}
    (apart : ∀ other ∈ builds, other.target ≠ build.target) :
    lastNamed build.file (Store.handed (builds.map request)) = none := by
  rw [lastNamed_eq_none_iff]
  intro asset member named
  obtain ⟨_, requested, found⟩ := Store.mem_handed.1 member
  obtain ⟨other, built, rfl⟩ := List.mem_map.1 requested
  exact apart other built (file_inj.1 ((file_of_asset? found).symm.trans named))

theorem lastNamed_asset? (build : Build) : lastNamed build.file build.asset?.toList = build.asset? := by
  cases found : build.asset? with
  | none => rfl
  | some asset => rw [Option.toList_some, lastNamed_singleton, if_pos (file_of_asset? found)]

/-- What is found under the file of a build is no other build's. -/
theorem get?_behind_request {builds : List Build} (apart : (builds.map target).Nodup) {build : Build}
    (member : build ∈ builds) : (Store.empty.behind (builds.map request)).get? build.file = build.asset? := by
  obtain ⟨before, after, rfl⟩ := List.append_of_mem member
  rw [List.map_append, List.map_cons, List.nodup_append, List.nodup_cons] at apart
  obtain ⟨-, ⟨ahead, -⟩, across⟩ := apart
  have earlier (other : Build) (built : other ∈ before) : other.target ≠ build.target :=
    across _ (List.mem_map_of_mem built) _ List.mem_cons_self
  have later (other : Build) (built : other ∈ after) : other.target ≠ build.target := by
    intro same
    exact ahead (same ▸ List.mem_map_of_mem built)
  have handed : Store.handed (request build :: after.map request) =
      build.asset?.toList ++ Store.handed (after.map request) :=
    Store.handed_cons _ _
  rw [Store.get?_behind, List.map_append, List.map_cons, Store.handed_append, handed, lastNamed_append, lastNamed_append,
    lastNamed_handed_of_apart earlier, lastNamed_handed_of_apart later, lastNamed_asset?, Option.none_or, Option.or_none]

end Build

/-! ## The statement -/

theorem builds_stay_apart (builds : List Build) (apart : (builds.map Build.target).Nodup) :
    (∀ build ∈ builds, (Store.empty.behind (builds.map Build.request)).get? (build.platform.templateFile build.stem) =
      match build.template.toMarkup (.targeting build.platform build.stem) with
      | .ok markup => some ⟨.markup, build.platform.templateFile build.stem, markup⟩
      | .error _ => none) ∧
    Function.Injective fun target : Platform × String => target.1.templateFile target.2 := by
  refine ⟨fun build member => Build.get?_behind_request apart member, ?_⟩
  intro target other same
  obtain ⟨platform, stem⟩ := Platform.templateFile_inj.1 same
  exact Prod.ext platform stem

/-- A page with a fault for one platform, among stems that end like the files of others. -/
def lookalikes : List Build :=
  [⟨.weixin, "a", { children := [.text "page" .nowhere] }⟩, ⟨.weixin, "a.qml", { children := [] }⟩,
    ⟨.qq, "a.wxml", { children := [.comment "page" .nowhere] }⟩,
    ⟨.qq, "a", { children := [.text "page" .nowhere, .compound [] .nowhere] }⟩, ⟨.baidu, "", { children := [] }⟩]

theorem builds_stay_apart_lookalikes :
    (lookalikes.map Build.target).Nodup ∧
    (Store.empty.behind (lookalikes.map Build.request)).get? "a.wxml" = some ⟨.markup, "a.wxml", "page"⟩ ∧
    (Store.empty.behind (lookalikes.map Build.request)).get? "a.qml" = none := by
  have apart : (lookalikes.map Build.target).Nodup := by decide
  obtain ⟨found, -⟩ := builds_stay_apart lookalikes apart
  have page : Template.toMarkup { children := [.text "page" .nowhere] } (.targeting .weixin "a") = .ok "page" :=
    toMarkup_eq_ok_iff.2 ⟨rfl, rfl⟩
  have fault : Template.toMarkup { children := [.text "page" .nowhere, .compound [] .nowhere] } (.targeting .qq "a") =
      .error (.of (.node .compound) .nowhere) :=
    toMarkup_eq_error_iff.2 rfl
  refine ⟨apart, ?_, ?_⟩
  · have first := found ⟨.weixin, "a", { children := [.text "page" .nowhere] }⟩ (.head _)
    rw [page] at first
    exact first
  · have last := found ⟨.qq, "a", { children := [.text "page" .nowhere, .compound [] .nowhere] }⟩
      (.tail _ (.tail _ (.tail _ (.head _))))
    rw [fault] at last
    exact last

end MiniMarkup
