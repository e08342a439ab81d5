import MiniMarkup.Proofs.Outcome

/-!
# Markup around the control prefix

The markup of a tree is cut where the control prefix stands, which is once in each control attribute. The
chunks between are those of the tree and of the comments flag (`nodesMarkup_eq_join`), and no fault depends on
the options at all.
-/

namespace MiniMarkup

/-! ## Chunks -/

/-- The texts that stand around the places of a prefix, of which there is one more than of those. -/
structure Chunks where
  first : String
  rest : List String

namespace Chunks

def toList (chunks : Chunks) : List String :=
  chunks.first :: chunks.rest

def join (namePrefix : String) (chunks : Chunks) : String :=
  namePrefix.intercalate chunks.toList

def after (text : String) (chunks : Chunks) : Chunks :=
  ⟨text ++ chunks.first, chunks.rest⟩

def afterPrefix (text : String) (chunks : Chunks) : Chunks :=
  ⟨text, chunks.toList⟩

variable (namePrefix text : String) (chunks : Chunks)

theorem join_after : (chunks.after text).join namePrefix = text ++ chunks.join namePrefix :=
  String.intercalate_cons_append

theorem join_afterPrefix :
    (chunks.afterPrefix text).join namePrefix = text ++ namePrefix ++ chunks.join namePrefix :=
  String.intercalate_cons_cons

end Chunks

def Piece.chunks (comments : Bool) (following : Chunks) : Piece → Chunks
  | verbatim text => following.after text
  | control name value => (following.after (name ++ value)).afterPrefix " "
  | comment content => following.after (if comments then commentText content else "")

def eventChunks (comments : Bool) : List Event → Chunks
  | [] => ⟨"", []⟩
  | event :: events => event.piece.chunks comments (eventChunks comments events)

theorem eventMarkup_eq_join (options : Options) (events : List Event) :
    eventMarkup options events = (eventChunks options.comments events).join options.controlPrefix := by
  induction events with
  | nil => rfl
  | cons event events ih =>
      rw [eventMarkup_cons, eventChunks, ih]
      cases event.piece with
      | verbatim text => rw [Piece.chunks, Chunks.join_after, Piece.markup]
      | control name value =>
          rw [Piece.chunks, Chunks.join_afterPrefix, Chunks.join_after, Piece.markup, controlText]
          simp only [String.append_assoc]
      | comment content => rw [Piece.chunks, Chunks.join_after, Piece.markup]

theorem nodesMarkup_eq_join (options : Options) (nodes : List Node) :
    nodesMarkup options nodes = (eventChunks options.comments (nodesEvents nodes)).join options.controlPrefix := by
  rw [nodesMarkup_eq, eventMarkup_eq_join]

/-! ## Control attributes of a tree -/

def Loop.controls (loop : Loop) (attributes : List Attribute) : Nat :=
  1 + loop.item.toList.length + loop.index.toList.length + (loopKey? attributes).toList.length

def StartTag.controls (start : StartTag) : Nat :=
  start.conditional.toList.length + start.loop.elim 0 (·.controls start.attributes)

mutual

def Element.controls : Element → Nat
  | ⟨start, children, _⟩ => start.controls + if start.selfClosing then 0 else nodesControls children

def Node.controls : Node → Nat
  | .element inner => inner.controls
  | .text _ _ | .comment _ _ | .interpolation _ _ | .compound _ _ => 0
  | .chain branches _ => branchesControls branches
  | .branch ⟨element, _⟩ => element.controls

def nodesControls : List Node → Nat
  | [] => 0
  | node :: nodes => node.controls + nodesControls nodes

def branchesControls : List Branch → Nat
  | [] => 0
  | ⟨element, _⟩ :: branches => element.controls + branchesControls branches

end

/-! ## Control attributes among events -/

def Event.isControl (event : Event) : Bool :=
  match event.piece with
  | .control _ _ => true
  | .verbatim _ | .comment _ => false

theorem length_eventChunks (comments : Bool) (events : List Event) :
    (eventChunks comments events).toList.length = events.countP Event.isControl + 1 := by
  induction events with
  | nil => rfl
  | cons event events ih =>
      rw [eventChunks, List.countP_cons, Event.isControl]
      cases event.piece <;>
        simp_all [Piece.chunks, Chunks.after, Chunks.afterPrefix, Chunks.toList]

theorem Conditional.countP_events (conditional : Conditional) : conditional.events.countP Event.isControl = 1 := by
  obtain ⟨kind, condition, span⟩ := conditional
  cases kind <;> rfl

theorem countP_controlEvents (name : String) (value : Option String) :
    (controlEvents name value).countP Event.isControl = value.toList.length := by
  cases value <;> rfl

theorem Loop.countP_events (loop : Loop) (attributes : List Attribute) :
    (loop.events attributes).countP Event.isControl = loop.controls attributes := by
  rw [Loop.events, List.countP_cons, List.countP_append, List.countP_append, countP_controlEvents,
    countP_controlEvents, countP_controlEvents, Loop.controls, Event.isControl]
  simp only [↓reduceIte]
  omega

theorem Attribute.countP_events (item : Attribute) : item.events.countP Event.isControl = 0 := by
  cases item with
  | plain name value span => cases value <;> rfl
  | directive inner =>
      rw [Attribute.events, Directive.events]
      cases inner.boundName? <;> rfl

theorem StartTag.countP_events (start : StartTag) : start.events.countP Event.isControl = start.controls := by
  have conditional : start.conditionalEvents.countP Event.isControl = start.conditional.toList.length := by
    cases found : start.conditional <;> simp [StartTag.conditionalEvents, found, Conditional.countP_events]
  have loop : start.loopEvents.countP Event.isControl = start.loop.elim 0 (·.controls start.attributes) := by
    cases found : start.loop <;> simp [StartTag.loopEvents, found, Loop.countP_events]
  have attributes : (start.ownAttributes.flatMap Attribute.events).countP Event.isControl = 0 := by
    rw [List.countP_eq_zero]
    intro event member
    obtain ⟨item, -, own⟩ := List.mem_flatMap.1 member
    exact List.countP_eq_zero.1 item.countP_events event own
  rw [StartTag.events, List.countP_cons, List.countP_append, List.countP_append, conditional, loop, attributes]
  rfl

mutual

theorem Element.countP_events : ∀ element : Element, element.events.countP Event.isControl = element.controls
  | ⟨start, children, _⟩ => by
      rw [Element.events, Element.controls, List.countP_append, start.countP_events]
      split
      · rfl
      · rw [List.countP_cons, List.countP_append, countP_nodesEvents children]
        rfl

theorem Node.countP_events : ∀ node : Node, node.events.countP Event.isControl = node.controls
  | .element inner => by rw [Node.events, Node.controls, inner.countP_events]
  | .text _ _ | .comment _ _ | .interpolation _ _ | .compound _ _ => rfl
  | .chain branches _ => by rw [Node.events, Node.controls, countP_branchesEvents branches]
  | .branch ⟨element, _⟩ => by rw [Node.events, Node.controls, element.countP_events]

theorem countP_nodesEvents : ∀ nodes : List Node, (nodesEvents nodes).countP Event.isControl = nodesControls nodes
  | [] => rfl
  | node :: nodes => by
      rw [nodesEvents, nodesControls, List.countP_append, node.countP_events, countP_nodesEvents nodes]

theorem countP_branchesEvents : ∀ branches : List Branch,
    (branchesEvents branches).countP Event.isControl = branchesControls branches
  | [] => rfl
  | ⟨element, _⟩ :: branches => by
      rw [branchesEvents, branchesControls, List.countP_append, element.countP_events, countP_branchesEvents branches]

end

/-! ## The statement -/

theorem options_reach_prefix_and_comments (template : Template) :
    (∀ options other, ((∃ code, template.toMarkup options = .ok code) ↔ ∃ code, template.toMarkup other = .ok code) ∧
      ∀ fault, template.toMarkup options = .error fault ↔ template.toMarkup other = .error fault) ∧
    (∀ options other : Options, options.controlPrefix = other.controlPrefix → options.comments = other.comments →
      template.toMarkup options = template.toMarkup other) ∧
    ∀ comments, ∃ chunks : List String, chunks.length = nodesControls template.children + 1 ∧
      ∀ options code, options.comments = comments → template.toMarkup options = .ok code →
        code = options.controlPrefix.intercalate chunks := by
  refine ⟨?_, ?_, ?_⟩
  · intro options other
    constructor
    · simp [toMarkup_eq_ok_iff]
    · intro fault
      rw [toMarkup_eq_error_iff, toMarkup_eq_error_iff]
  · intro options other samePrefix sameComments
    rw [toMarkup_eq, toMarkup_eq, nodesMarkup_eq_join, nodesMarkup_eq_join, samePrefix, sameComments]
  · intro comments
    refine ⟨(eventChunks comments (nodesEvents template.children)).toList, ?_, ?_⟩
    · rw [length_eventChunks, countP_nodesEvents]
    · rintro options code rfl written
      obtain ⟨-, rfl⟩ := toMarkup_eq_ok_iff.1 written
      exact nodesMarkup_eq_join options template.children

/-- A list with four control attributes. Its text looks like one more, but holds no prefix. -/
def guardedList : Template where
  children :=
    [.comment "rows" .nowhere,
      .element ⟨{ name := "view"
                  conditional := some { kind := .when, condition := some (.simple "ok" false .nowhere) }
                  loop := some { source := .simple "xs" false .nowhere, item := some "x" }
                  attributes := [.directive { kind := .bind, argument := some (.simple "key" true .nowhere),
                                              expression := some (.simple "x.id" false .nowhere) }] },
        [.text "wx:if" .nowhere], .nowhere⟩]

theorem options_reach_prefix_and_comments_guardedList :
    let toutiao := "<!--rows--><view tt:if=\"\x7b\x7bok\x7d\x7d\" tt:for=\"\x7b\x7bxs\x7d\x7d\" tt:for-item=\"x\" tt:key=\"id\">wx:if</view>"
    let bare := "<!--rows--><view if=\"\x7b\x7bok\x7d\x7d\" for=\"\x7b\x7bxs\x7d\x7d\" for-item=\"x\" key=\"id\">wx:if</view>"
    guardedList.toMarkup { filename := "list.ttml", platform := .toutiao, comments := true } =
      guardedList.toMarkup { customPrefix := some "tt:", comments := true } ∧
    guardedList.toMarkup { platform := .toutiao, comments := true } = .ok toutiao ∧
    guardedList.toMarkup { customPrefix := some "", comments := true } = .ok bare ∧
    ∃ chunks : List String, chunks.length = 5 ∧ toutiao = "tt:".intercalate chunks ∧ bare = "".intercalate chunks := by
  intro toutiao bare
  have written : guardedList.toMarkup { platform := .toutiao, comments := true } = .ok toutiao :=
    toMarkup_eq_ok_iff.2 ⟨rfl, rfl⟩
  have writtenBare : guardedList.toMarkup { customPrefix := some "", comments := true } = .ok bare :=
    toMarkup_eq_ok_iff.2 ⟨rfl, rfl⟩
  obtain ⟨-, same, chunks⟩ := options_reach_prefix_and_comments guardedList
  obtain ⟨chunks, length, cut⟩ := chunks true
  exact ⟨same _ _ rfl rfl, written, writtenBare, chunks, length, cut _ _ rfl written, cut _ _ rfl writtenBare⟩

end MiniMarkup
