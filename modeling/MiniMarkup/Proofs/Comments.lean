import MiniMarkup.Proofs.Outcome

/-!
# Templates without comments

Comments can be held back by the options or taken out of the template. Without them a template goes through
its other events (`nodesEvents_withoutComments`), and a comment that is held back writes nothing, so that both
ways give one run (`run_writeNodes_withoutComments`).
-/

namespace MiniMarkup
open Writer

/-! ## Removal -/

mutual

def Element.withoutComments : Element → Element
  | ⟨start, children, span⟩ => ⟨start, nodesWithoutComments children, span⟩

def Node.withoutComments? : Node → Option Node
  | .comment _ _ => none
  | .element inner => some (.element inner.withoutComments)
  | .chain branches span => some (.chain (branchesWithoutComments branches) span)
  | .branch ⟨element, span⟩ => some (.branch ⟨element.withoutComments, span⟩)
  | .text content span => some (.text content span)
  | .interpolation expression span => some (.interpolation expression span)
  | .compound parts span => some (.compound parts span)

def nodesWithoutComments : List Node → List Node
  | [] => []
  | node :: nodes => node.withoutComments?.toList ++ nodesWithoutComments nodes

def branchesWithoutComments : List Branch → List Branch
  | [] => []
  | ⟨element, span⟩ :: branches => ⟨element.withoutComments, span⟩ :: branchesWithoutComments branches

end

def Template.withoutComments (template : Template) : Template :=
  { template with children := nodesWithoutComments template.children }

/-! ## Events but for comments -/

def Event.isComment : Event → Bool
  | ⟨.comment _, none⟩ => true
  | _ => false

def uncommented (events : List Event) : List Event :=
  events.filter fun event => !event.isComment

theorem uncommented_append (before behind : List Event) :
    uncommented (before ++ behind) = uncommented before ++ uncommented behind :=
  List.filter_append before behind

theorem uncommented_cons {event : Event} (other : event.isComment = false) (events : List Event) :
    uncommented (event :: events) = event :: uncommented events :=
  List.filter_cons_of_pos (by rw [other]; rfl)

theorem uncommented_comment (content : String) (events : List Event) :
    uncommented (⟨.comment content, none⟩ :: events) = uncommented events :=
  rfl

theorem uncommented_conditional (conditional : Conditional) : uncommented conditional.events = conditional.events := by
  obtain ⟨kind, condition, span⟩ := conditional
  cases kind <;> rfl

theorem uncommented_controlEvents (name : String) (value : Option String) :
    uncommented (controlEvents name value) = controlEvents name value := by
  cases value <;> rfl

theorem uncommented_loop (loop : Loop) (attributes : List Attribute) :
    uncommented (loop.events attributes) = loop.events attributes := by
  rw [Loop.events, uncommented_cons rfl, uncommented_append, uncommented_append, uncommented_controlEvents,
    uncommented_controlEvents, uncommented_controlEvents]

theorem uncommented_attribute (item : Attribute) : uncommented item.events = item.events := by
  cases item with
  | plain name value span => cases value <;> rfl
  | directive inner =>
      rw [Attribute.events, Directive.events]
      cases inner.boundName? <;> rfl

theorem uncommented_attributes (attributes : List Attribute) :
    uncommented (attributes.flatMap Attribute.events) = attributes.flatMap Attribute.events := by
  induction attributes with
  | nil => rfl
  | cons item rest ih => rw [List.flatMap_cons, uncommented_append, uncommented_attribute, ih]

theorem uncommented_start (start : StartTag) : uncommented start.events = start.events := by
  have conditional : uncommented start.conditionalEvents = start.conditionalEvents := by
    rw [StartTag.conditionalEvents]
    cases start.conditional with
    | none => rfl
    | some conditional => exact uncommented_conditional conditional
  have loop : uncommented start.loopEvents = start.loopEvents := by
    rw [StartTag.loopEvents]
    cases start.loop with
    | none => rfl
    | some loop => exact uncommented_loop loop start.attributes
  rw [StartTag.events, uncommented_cons rfl, uncommented_append, uncommented_append, conditional, loop,
    uncommented_attributes]

theorem nodesEvents_toList (node? : Option Node) : nodesEvents node?.toList = node?.elim [] Node.events := by
  cases node? with
  | none => rfl
  | some node => exact List.append_nil node.events

mutual

theorem Element.events_withoutComments : ∀ element : Element,
    element.withoutComments.events = uncommented element.events
  | ⟨start, children, _⟩ => by
      rw [Element.withoutComments, Element.events, Element.events, uncommented_append, uncommented_start]
      split
      · rfl
      · rw [uncommented_cons rfl, uncommented_append, nodesEvents_withoutComments children]
        rfl

theorem Node.events_withoutComments? : ∀ node : Node,
    node.withoutComments?.elim [] Node.events = uncommented node.events
  | .element inner => by
      rw [Node.withoutComments?, Option.elim_some, Node.events, Node.events, inner.events_withoutComments]
  | .chain branches _ => by
      rw [Node.withoutComments?, Option.elim_some, Node.events, Node.events, branchesEvents_withoutComments branches]
  | .branch ⟨element, _⟩ => by
      rw [Node.withoutComments?, Option.elim_some, Node.events, Node.events, element.events_withoutComments]
  | .text _ _ | .comment _ _ | .interpolation _ _ | .compound _ _ => rfl

theorem nodesEvents_withoutComments : ∀ nodes : List Node,
    nodesEvents (nodesWithoutComments nodes) = uncommented (nodesEvents nodes)
  | [] => rfl
  | node :: nodes => by
      rw [nodesWithoutComments, nodesEvents_append, nodesEvents_toList, node.events_withoutComments?, nodesEvents,
        uncommented_append, nodesEvents_withoutComments nodes]

theorem branchesEvents_withoutComments : ∀ branches : List Branch,
    branchesEvents (branchesWithoutComments branches) = uncommented (branchesEvents branches)
  | [] => rfl
  | ⟨element, _⟩ :: branches => by
      rw [branchesWithoutComments, branchesEvents, branchesEvents, uncommented_append, element.events_withoutComments,
        branchesEvents_withoutComments branches]

end

/-! ## Runs without comments -/

/-- A comment that is held back leaves the buffer as it is, so that its event can be left out. -/
theorem run_performAll_uncommented {silent options : Options} (held : silent.comments = false)
    (same : silent.controlPrefix = options.controlPrefix) (events : List Event) (buffer : Buffer) :
    performAll events silent buffer = performAll (uncommented events) options buffer := by
  induction events generalizing buffer with
  | nil => rfl
  | cons event events ih =>
      obtain ⟨piece, fault⟩ := event
      cases fault with
      | some fault =>
          -- A fault ends the run whatever piece it stands before, so that its event is no comment.
          have kept : uncommented (⟨piece, some fault⟩ :: events) = ⟨piece, some fault⟩ :: uncommented events := by
            cases piece <;> rfl
          rw [kept, performAll_cons, performAll_cons, run_bind, run_bind, run_perform, run_perform]
      | none =>
          rw [performAll_cons, run_bind, run_perform]
          cases piece with
          | verbatim text =>
              rw [uncommented_cons rfl, performAll_cons, run_bind, run_perform]
              exact ih _
          | control name value =>
              have written : (Piece.control name value).markup silent = (Piece.control name value).markup options := by
                rw [Piece.markup, Piece.markup, controlText, controlText, same]
              rw [uncommented_cons rfl, performAll_cons, run_bind, run_perform, written]
              exact ih _
          | comment content =>
              have written : (Piece.comment content).markup silent = "" := by
                rw [Piece.markup, if_neg (by rw [held]; exact Bool.false_ne_true)]
              rw [uncommented_comment, written, Buffer.push_empty]
              exact ih buffer

theorem run_writeNodes_withoutComments {silent options : Options} (held : silent.comments = false)
    (same : silent.controlPrefix = options.controlPrefix) (nodes : List Node) (buffer : Buffer) :
    writeNodes nodes silent buffer = writeNodes (nodesWithoutComments nodes) options buffer := by
  rw [writeNodes_performs, writeNodes_performs, nodesEvents_withoutComments]
  exact run_performAll_uncommented held same (nodesEvents nodes) buffer

/-! ## The statement -/

theorem comments_held_back_as_removed (template : Template) (options : Options) (held : options.comments = false) :
    template.toMarkup options = template.withoutComments.toMarkup options ∧
    template.toMarkup options = template.withoutComments.toMarkup { options with comments := true } ∧
    ∀ fault, template.toMarkup { options with comments := true } = .error fault ↔
      template.toMarkup options = .error fault := by
  have removed (other : Options) (same : options.controlPrefix = other.controlPrefix) :
      template.toMarkup options = template.withoutComments.toMarkup other := by
    rw [Template.toMarkup, Template.toMarkup, run_writeNodes_withoutComments held same]
    rfl
  refine ⟨removed options rfl, removed { options with comments := true } rfl, ?_⟩
  intro fault
  rw [toMarkup_eq_error_iff, toMarkup_eq_error_iff]

/-- Comments in every kind of place that holds nodes, the last of them never written. -/
def remarks : Template where
  children :=
    [.comment "page" .nowhere,
      .chain [⟨⟨{ name := "view", conditional := some { kind := .otherwise } },
        [.comment "chain" .nowhere, .text "a" .nowhere], .nowhere⟩, .nowhere⟩] .nowhere,
      .branch ⟨⟨{ name := "view" }, [.text "b" .nowhere, .comment "branch" .nowhere], .nowhere⟩, .nowhere⟩,
      .element ⟨{ name := "image", selfClosing := true }, [.comment "unseen" .nowhere], .nowhere⟩]

theorem comments_held_back_as_removed_remarks :
    remarks.toMarkup {} = .ok "<view wx:else>a</view><view>b</view><image/>" ∧
    remarks.withoutComments.toMarkup { comments := true } = .ok "<view wx:else>a</view><view>b</view><image/>" ∧
    remarks.toMarkup { comments := true } =
      .ok "<!--page--><view wx:else><!--chain-->a</view><view>b<!--branch--></view><image/>" := by
  obtain ⟨-, removed, -⟩ := comments_held_back_as_removed remarks {} rfl
  have silent : remarks.toMarkup {} = .ok "<view wx:else>a</view><view>b</view><image/>" :=
    toMarkup_eq_ok_iff.2 ⟨rfl, rfl⟩
  exact ⟨silent, removed.symm.trans silent, toMarkup_eq_ok_iff.2 ⟨rfl, rfl⟩⟩

end MiniMarkup
