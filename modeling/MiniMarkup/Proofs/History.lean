import MiniMarkup.Asset.Delivery

/-!
# Histories of a store

A store holds what its requests handed over, in their order: the asset of each request to add one and of each
template without a fault (`toList_behind`). Under a name it finds what was handed over last.
-/

namespace MiniMarkup

/-- The asset of a template, which has none where it has a fault. -/
def Template.asset? (template : Template) (options : Options) : Option Asset :=
  match template.toMarkup options with
  | .ok markup => some ⟨.markup, options.filename, markup⟩
  | .error _ => none

theorem Template.deliver_eq {σ : Type} (template : Template) (options : Options) (receive : Asset → σ → σ)
    (receiver : σ) : template.deliver options receive receiver =
      ((template.toMarkup options).map fun _ => (), (template.asset? options).elim receiver (receive · receiver)) := by
  rw [Template.deliver, Template.asset?]
  cases template.toMarkup options <;> rfl

namespace Asset

def lastNamed (fileName : String) (assets : List Asset) : Option Asset :=
  (assets.filter fun asset => asset.fileName = fileName).getLast?

theorem lastNamed_append (fileName : String) (before behind : List Asset) :
    lastNamed fileName (before ++ behind) = (lastNamed fileName behind).or (lastNamed fileName before) := by
  rw [lastNamed, List.filter_append, List.getLast?_append]
  rfl

theorem lastNamed_singleton (fileName : String) (asset : Asset) :
    lastNamed fileName [asset] = if asset.fileName = fileName then some asset else none := by
  by_cases named : asset.fileName = fileName <;> simp [lastNamed, named]

theorem lastNamed_eq_none_iff {fileName : String} {assets : List Asset} :
    lastNamed fileName assets = none ↔ ∀ asset ∈ assets, asset.fileName ≠ fileName := by
  simp [lastNamed]

namespace Store

theorem get?_eq_lastNamed (store : Store) (fileName : String) :
    store.get? fileName = lastNamed fileName store.toList := by
  rw [lastNamed, List.getLast?_eq_head?_reverse, ← List.filter_reverse, List.head?_filter]
  rfl

/-! ## One request -/

namespace Request

def asset? : Request → Option Asset
  | .deliver template options => template.asset? options
  | .add asset => some asset
  | .get _ | .list => none

def adds : Request → Bool
  | .add _ => true
  | .deliver _ _ | .get _ | .list => false

def delivers : Request → Bool
  | .deliver template options => (template.toMarkup options).isOk
  | .add _ | .get _ | .list => false

/-- What a store answers that holds the assets `held`. -/
def answerFrom (held : List Asset) : Request → Answer
  | .deliver template options => .delivered ((template.toMarkup options).map fun _ => ())
  | .add _ => .added
  | .get fileName => .found (lastNamed fileName held)
  | .list => .listed held

theorem length_asset? (request : Request) : request.asset?.toList.length =
    (if request.adds then 1 else 0) + if request.delivers then 1 else 0 := by
  cases request with
  | deliver template options =>
      rw [asset?, Template.asset?, adds, delivers]
      cases template.toMarkup options <;> rfl
  | add asset => rfl
  | get fileName => rfl
  | list => rfl

end Request

theorem answer_eq (store : Store) (request : Request) :
    store.answer request = (request.answerFrom store.toList, request.asset?.elim store (Store.add · store)) := by
  cases request with
  | deliver template options =>
      rw [answer, Template.deliver_eq]
      rfl
  | add asset => rfl
  | get fileName => rw [answer, get?_eq_lastNamed]; rfl
  | list => rfl

theorem toList_answer (store : Store) (request : Request) :
    (store.answer request).2.toList = store.toList ++ request.asset?.toList := by
  rw [answer_eq]
  cases request.asset? with
  | none => exact (List.append_nil _).symm
  | some asset => exact toList_add asset store

/-! ## Runs of requests -/

def handed (requests : List Request) : List Asset :=
  requests.filterMap Request.asset?

theorem handed_cons (request : Request) (requests : List Request) :
    handed (request :: requests) = request.asset?.toList ++ handed requests := by
  cases found : request.asset? <;> simp [handed, found]

theorem handed_append (before after : List Request) : handed (before ++ after) = handed before ++ handed after :=
  List.filterMap_append

theorem mem_handed {requests : List Request} {asset : Asset} :
    asset ∈ handed requests ↔ ∃ request ∈ requests, request.asset? = some asset :=
  List.mem_filterMap

def behind (store : Store) (requests : List Request) : Store :=
  ((store.answerAll requests).map Prod.snd).getLastD store

theorem behind_cons (store : Store) (request : Request) (requests : List Request) :
    store.behind (request :: requests) = (store.answer request).2.behind requests := by
  rw [behind, answerAll, List.map_cons, List.getLastD_cons]
  rfl

theorem toList_behind (store : Store) (requests : List Request) :
    (store.behind requests).toList = store.toList ++ handed requests := by
  induction requests generalizing store with
  | nil => exact (List.append_nil _).symm
  | cons request requests ih => rw [behind_cons, ih, toList_answer, List.append_assoc, handed_cons]

theorem answerAll_append (store : Store) (before after : List Request) :
    store.answerAll (before ++ after) = store.answerAll before ++ (store.behind before).answerAll after := by
  induction before generalizing store with
  | nil => rfl
  | cons request requests ih =>
      rw [List.cons_append, answerAll, answerAll, List.cons_append, ih, behind_cons]

theorem length_answerAll (store : Store) (requests : List Request) :
    (store.answerAll requests).length = requests.length := by
  induction requests generalizing store with
  | nil => rfl
  | cons request requests ih => rw [answerAll, List.length_cons, List.length_cons, ih]

theorem toList_empty_behind (requests : List Request) : (empty.behind requests).toList = handed requests := by
  rw [toList_behind, toList_empty, List.nil_append]

theorem answerAll_getElem? (before : List Request) (request : Request) (after : List Request) :
    (empty.answerAll (before ++ request :: after))[before.length]? =
      some (request.answerFrom (handed before), empty.behind (before ++ [request])) := by
  have next : empty.behind (before ++ [request]) = ((empty.behind before).answer request).2 := by
    rw [behind, answerAll_append]
    simp [answerAll]
  rw [answerAll_append, List.getElem?_append_right (Nat.le_of_eq (length_answerAll empty before)),
    length_answerAll, Nat.sub_self, answerAll, List.getElem?_cons_zero, next, answer_eq, toList_empty_behind]

theorem size_behind (requests : List Request) :
    (empty.behind requests).size = requests.countP Request.adds + requests.countP Request.delivers := by
  rw [← length_toList, toList_empty_behind]
  induction requests with
  | nil => rfl
  | cons request requests ih =>
      rw [handed_cons, List.length_append, ih, request.length_asset?, List.countP_cons, List.countP_cons]
      omega

theorem get?_behind (requests : List Request) (fileName : String) :
    (empty.behind requests).get? fileName = lastNamed fileName (handed requests) := by
  rw [get?_eq_lastNamed, toList_empty_behind]

theorem get?_behind_eq_none_iff {requests : List Request} {fileName : String} :
    (empty.behind requests).get? fileName = none ↔
      ∀ request ∈ requests, ∀ asset, request.asset? = some asset → asset.fileName ≠ fileName := by
  rw [get?_behind, lastNamed_eq_none_iff]
  simp only [mem_handed]
  constructor
  · intro other request member asset found
    exact other asset ⟨request, member, found⟩
  · rintro other asset ⟨request, member, found⟩
    exact other request member asset found

theorem get?_behind_eq_some_iff {requests : List Request} {fileName : String} {asset : Asset} :
    (empty.behind requests).get? fileName = some asset ↔ ∃ before request after,
      requests = before ++ request :: after ∧ request.asset? = some asset ∧ asset.fileName = fileName ∧
        ∀ later ∈ after, ∀ other, later.asset? = some other → other.fileName ≠ fileName := by
  constructor
  · intro found
    rw [get?_behind] at found
    -- From the left: the asset comes from a later request, or no later one has its name.
    induction requests with
    | nil => cases found
    | cons request requests ih =>
        rw [handed_cons, lastNamed_append] at found
        cases behind : lastNamed fileName (handed requests) with
        | some last =>
            rw [behind, Option.some_or] at found
            obtain ⟨before, chosen, after, rfl, rest⟩ := ih (behind.trans found)
            exact ⟨request :: before, chosen, after, rfl, rest⟩
        | none =>
            rw [behind, Option.none_or] at found
            rw [← get?_behind, get?_behind_eq_none_iff] at behind
            cases added : request.asset? with
            | none => rw [added] at found; cases found
            | some only =>
                rw [added, Option.toList_some, lastNamed_singleton, Option.ite_none_right_eq_some] at found
                obtain ⟨named, same⟩ := found
                cases same
                exact ⟨[], request, requests, rfl, added, named, behind⟩
  · rintro ⟨before, request, after, rfl, added, named, later⟩
    have silent := get?_behind_eq_none_iff.2 later
    rw [get?_behind] at silent
    rw [get?_behind, handed_append, lastNamed_append, handed_cons, lastNamed_append, silent, added,
      Option.toList_some, lastNamed_singleton, if_pos named, Option.none_or, Option.some_or]

/-- A template with a fault leaves the asset in place that has its name already. -/
theorem get?_behind_deliver (requests : List Request) (template : Template) (options : Options) :
    (empty.behind (requests ++ [.deliver template options])).get? options.filename =
      (template.asset? options).or ((empty.behind requests).get? options.filename) := by
  rw [get?_behind, get?_behind, handed_append, lastNamed_append, handed_cons, Request.asset?, Template.asset?]
  cases template.toMarkup options with
  | ok markup => simp [handed, lastNamed_singleton]
  | error fault => rfl

/-! ## The statement -/

theorem store_replays_history :
    (∀ before request after, (empty.answerAll (before ++ request :: after))[before.length]? =
      some (request.answerFrom (handed before), empty.behind (before ++ [request]))) ∧
    (∀ before after, (empty.behind (before ++ after)).toList = (empty.behind before).toList ++ handed after) ∧
    (∀ requests, (empty.behind requests).size = requests.countP Request.adds + requests.countP Request.delivers) ∧
    (∀ requests fileName, (empty.behind requests).get? fileName = lastNamed fileName (handed requests)) ∧
    (∀ requests fileName asset, (empty.behind requests).get? fileName = some asset ↔ ∃ before request after,
      requests = before ++ request :: after ∧ request.asset? = some asset ∧ asset.fileName = fileName ∧
        ∀ later ∈ after, ∀ other, later.asset? = some other → other.fileName ≠ fileName) ∧
    (∀ requests fileName, (empty.behind requests).get? fileName = none ↔
      ∀ request ∈ requests, ∀ asset, request.asset? = some asset → asset.fileName ≠ fileName) ∧
    (∀ requests template options, (empty.behind (requests ++ [.deliver template options])).get? options.filename =
      (template.asset? options).or ((empty.behind requests).get? options.filename)) ∧
    ∀ {σ : Type} (template : Template) (options : Options) (receive : Asset → σ → σ) (receiver : σ),
      template.deliver options receive receiver =
        ((template.toMarkup options).map fun _ => (), (template.asset? options).elim receiver (receive · receiver)) := by
  refine ⟨answerAll_getElem?, ?_, size_behind, get?_behind, fun _ _ _ => get?_behind_eq_some_iff,
    fun _ _ => get?_behind_eq_none_iff, get?_behind_deliver, Template.deliver_eq⟩
  intro before after
  rw [toList_empty_behind, toList_empty_behind, handed_append]

end Store

end Asset

end MiniMarkup
