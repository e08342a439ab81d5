import MiniMarkup.Proofs.Constructs

/-!
# Trees as lists of events

Writing a tree goes through a list of events in document order. An event writes one piece of markup,
unless a fault stands before it.

* `writeNodes_performs`: the writer of a tree performs the events of the tree.
* `run_performAll`: a run writes the pieces before the first fault and reports that fault.
-/

namespace MiniMarkup
open Writer

/-! ## Events -/

inductive Piece where
  | verbatim (text : String)
  | control (name value : String)
  | comment (content : String)

structure Event where
  piece : Piece
  fault : Option Fault := none

def mustacheText (content : String) : String :=
  "\x7b\x7b" ++ content ++ "\x7d\x7d"

def quotedText (value : String) : String :=
  "=\"" ++ value ++ "\""

def controlText (options : Options) (name : String) : String :=
  " " ++ options.controlPrefix ++ name

def commentText (content : String) : String :=
  "<!--" ++ content ++ "-->"

def Piece.markup (options : Options) : Piece → String
  | verbatim text => text
  | control name value => controlText options name ++ value
  | comment content => if options.comments then commentText content else ""

def Event.perform (event : Event) : Writer Unit :=
  match event.fault with
  | none => do push (event.piece.markup (← read))
  | some fault => throw fault

def performAll (events : List Event) : Writer Unit :=
  events.forM Event.perform

def eventFaults (events : List Event) : List Fault :=
  events.filterMap Event.fault

def eventMarkup (options : Options) (events : List Event) : String :=
  String.join (events.map fun event => event.piece.markup options)

/-- The events before the first fault. -/
def faultless (events : List Event) : List Event :=
  events.takeWhile fun event => event.fault.isNone

/-! ## The events of a tree -/

def Conditional.events (conditional : Conditional) : List Event :=
  match conditional.kind with
  | .when => [⟨.control "if" value, conditional.fault⟩]
  | .elseWhen => [⟨.control "elif" value, conditional.fault⟩]
  | .otherwise => [⟨.control "else" "", none⟩]
where
  value := quotedText (mustacheText (expressionText conditional.condition))

def controlEvents (name : String) : Option String → List Event
  | none => []
  | some value => [⟨.control name (quotedText value), none⟩]

def Loop.events (loop : Loop) (attributes : List Attribute) : List Event :=
  ⟨.control "for" (quotedText (mustacheText loop.source.text)), loop.fault⟩ ::
    (controlEvents "for-item" loop.item ++ controlEvents "for-index" loop.index ++
      controlEvents "key" (loopKey? attributes))

def Directive.events (directive : Directive) : List Event :=
  match directive.boundName? with
  | none => []
  | some name =>
      [⟨.verbatim (" " ++ name ++ quotedText (mustacheText (expressionText directive.expression))),
        directive.fault⟩]

def Attribute.events : Attribute → List Event
  | .plain name none _ => [⟨.verbatim (" " ++ name), none⟩]
  | .plain name (some value) _ => [⟨.verbatim (" " ++ name ++ "=" ++ value), none⟩]
  | .directive inner => inner.events

def StartTag.conditionalEvents (start : StartTag) : List Event :=
  start.conditional.elim [] Conditional.events

def StartTag.loopEvents (start : StartTag) : List Event :=
  start.loop.elim [] fun loop => loop.events start.attributes

def StartTag.events (start : StartTag) : List Event :=
  ⟨.verbatim ("<" ++ start.tag), none⟩ ::
    (start.conditionalEvents ++ start.loopEvents ++ start.ownAttributes.flatMap Attribute.events)

def StartTag.closing (start : StartTag) : String :=
  "</" ++ start.tag ++ ">"

mutual

def Element.events : Element → List Event
  | ⟨start, children, _⟩ =>
      start.events ++
        if start.selfClosing then [⟨.verbatim "/>", none⟩]
        else ⟨.verbatim ">", none⟩ :: (nodesEvents children ++ [⟨.verbatim start.closing, none⟩])

def Node.events : Node → List Event
  | .element inner => inner.events
  | .text content _ => [⟨.verbatim content, none⟩]
  | .comment content _ => [⟨.comment content, none⟩]
  | .interpolation expression span =>
      [⟨.verbatim (mustacheText expression.text), requiredFault .missingInterpolation span expression⟩]
  | .chain branches _ => branchesEvents branches
  | .branch ⟨element, _⟩ => element.events
  | .compound _ span => [⟨.verbatim "", some (.of (.node .compound) span)⟩]

def nodesEvents : List Node → List Event
  | [] => []
  | node :: nodes => node.events ++ nodesEvents nodes

def branchesEvents : List Branch → List Event
  | [] => []
  | ⟨element, _⟩ :: branches => element.events ++ branchesEvents branches

end

theorem nodesEvents_append (before behind : List Node) :
    nodesEvents (before ++ behind) = nodesEvents before ++ nodesEvents behind := by
  induction before with
  | nil => rfl
  | cons node before ih => rw [List.cons_append, nodesEvents, nodesEvents, ih, List.append_assoc]

/-! ## Runs of events -/

theorem run_perform (event : Event) (options : Options) (buffer : Buffer) :
    event.perform options buffer = match event.fault with
      | none => .ok () (buffer.push (event.piece.markup options))
      | some fault => .error fault buffer := by
  obtain ⟨piece, _ | fault⟩ := event <;> rfl

theorem run_read (options : Options) (buffer : Buffer) :
    (read : Writer Options) options buffer = .ok options buffer := rfl

theorem performAll_nil : performAll [] = pure () := rfl

theorem performAll_cons (event : Event) (events : List Event) :
    performAll (event :: events) = (do event.perform; performAll events) := rfl

theorem performAll_append (before behind : List Event) :
    performAll (before ++ behind) = (do performAll before; performAll behind) :=
  List.forM_append

theorem performAll_singleton (event : Event) : performAll [event] = event.perform := by
  rw [performAll_cons, performAll_nil]
  exact bind_pure_unit

theorem eventMarkup_cons (options : Options) (event : Event) (events : List Event) :
    eventMarkup options (event :: events) = event.piece.markup options ++ eventMarkup options events := by
  simp [eventMarkup]

theorem eventMarkup_append (options : Options) (before behind : List Event) :
    eventMarkup options (before ++ behind) = eventMarkup options before ++ eventMarkup options behind := by
  simp [eventMarkup]

theorem eventFaults_append (before behind : List Event) :
    eventFaults (before ++ behind) = eventFaults before ++ eventFaults behind :=
  List.filterMap_append

theorem run_performAll (events : List Event) (options : Options) (buffer : Buffer) :
    performAll events options buffer = match (eventFaults events).head? with
      | none => .ok () (buffer.push (eventMarkup options events))
      | some fault => .error fault (buffer.push (eventMarkup options (faultless events))) := by
  induction events generalizing buffer with
  | nil => simp [performAll_nil, run_pure, eventFaults, eventMarkup]
  | cons event events ih =>
      rw [performAll_cons, run_bind, run_perform]
      obtain ⟨piece, _ | fault⟩ := event
      · have faults : eventFaults (⟨piece, none⟩ :: events) = eventFaults events := rfl
        have before : faultless (⟨piece, none⟩ :: events) = ⟨piece, none⟩ :: faultless events := rfl
        simp only [ih, Buffer.push_push, faults, before, eventMarkup_cons]
      · simp [eventFaults, faultless, eventMarkup]

/-! ## Writers perform events -/

theorem perform_verbatim (text : String) : Event.perform ⟨.verbatim text, none⟩ = push text := rfl

theorem perform_control (name : String) : Event.perform ⟨.control name "", none⟩ = control name := by
  funext options buffer
  simp [run_perform, run_control, Piece.markup, controlText]

theorem perform_controlQuoted (name value : String) :
    Event.perform ⟨.control name (quotedText value), none⟩ = (do control name; quoted value) := by
  funext options buffer
  simp [run_perform, run_bind, run_control, run_quoted, Piece.markup, controlText, quotedText]

theorem perform_controlMustache (name content : String) :
    Event.perform ⟨.control name (quotedText (mustacheText content)), none⟩ =
      (do control name; quotedMustache content) := by
  funext options buffer
  simp [run_perform, run_bind, run_control, run_quotedMustache, Piece.markup, controlText, quotedText,
    mustacheText]

theorem perform_bound (name content : String) :
    Event.perform ⟨.verbatim (" " ++ name ++ quotedText (mustacheText content)), none⟩ =
      (do push " "; push name; quotedMustache content) := by
  funext options buffer
  simp [run_perform, run_bind, run_push, run_quotedMustache, Piece.markup, quotedText, mustacheText]

theorem perform_mustache (content : String) :
    Event.perform ⟨.verbatim (mustacheText content), none⟩ = mustache content := by
  funext options buffer
  simp [run_perform, run_mustache, Piece.markup, mustacheText]

theorem perform_comment (content : String) : Event.perform ⟨.comment content, none⟩ = writeComment content := by
  funext options buffer
  rw [run_perform]
  rw [writeComment, run_bind, run_read]
  by_cases kept : options.comments
  · simp [run_bind, run_push, Piece.markup, kept, commentText]
  · simp [run_pure, Piece.markup, kept]

/-- A required text is checked before any of its piece is written. -/
theorem required_bind {α : Type} (kind : Fault.Kind) (holder : Span) (expression : Option Expression)
    (next : String → Writer α) (piece : Piece) (rest : Writer α)
    (written : next (expressionText expression) = (do Event.perform ⟨piece, none⟩; rest)) :
    (do next (← required kind holder expression)) =
      (do Event.perform ⟨piece, requiredFault kind holder expression⟩; rest) := by
  funext options buffer
  rw [run_bind, required, run_ofExcept, requiredText_eq]
  cases requiredFault kind holder expression with
  | none => exact congrFun (congrFun written options) buffer
  | some fault => rfl

theorem required_perform (kind : Fault.Kind) (holder : Span) (expression : Option Expression)
    (next : String → Writer Unit) (piece : Piece)
    (written : next (expressionText expression) = Event.perform ⟨piece, none⟩) :
    (do next (← required kind holder expression)) =
      performAll [⟨piece, requiredFault kind holder expression⟩] := by
  apply required_bind
  rw [written]
  exact bind_pure_unit.symm

theorem Conditional.write_performs (conditional : Conditional) :
    conditional.write = performAll conditional.events := by
  obtain ⟨kind, condition, span⟩ := conditional
  cases kind with
  | when => exact required_perform _ _ _ _ _ (perform_controlMustache _ _).symm
  | elseWhen => exact required_perform _ _ _ _ _ (perform_controlMustache _ _).symm
  | otherwise =>
      rw [Conditional.events, performAll_singleton, perform_control]
      rfl

theorem controlWith?_performs (name : String) (value : Option String) :
    controlWith? name value = performAll (controlEvents name value) := by
  cases value with
  | none => rfl
  | some value => rw [controlEvents, performAll_singleton, perform_controlQuoted, controlWith?]

theorem Loop.write_performs (loop : Loop) (attributes : List Attribute) :
    loop.write attributes = (do
      performAll (loop.events attributes)
      return KeySplit.ofAttributes attributes) := by
  rw [Loop.events, performAll_cons, bind_assoc]
  apply required_bind
  rw [performAll_append, performAll_append, perform_controlMustache]
  simp only [controlWith?_performs, bind_assoc, loopKey?_eq]
  rfl

theorem Directive.write_performs (directive : Directive) : directive.write = performAll directive.events := by
  rw [Directive.write_eq, Directive.events]
  cases directive.boundName? with
  | none => rfl
  | some name => exact required_perform _ _ _ _ _ (perform_bound _ _).symm

theorem Attribute.write_performs (item : Attribute) : item.write = performAll item.events := by
  cases item with
  | plain name value span =>
      funext options buffer
      cases value <;>
        simp [Attribute.write, Attribute.events, performAll_singleton, run_perform, run_bind, run_push, Piece.markup,
          String.append_assoc]
  | directive inner => exact inner.write_performs

theorem writeAttributes_performs (attributes : List Attribute) :
    writeAttributes attributes = performAll (attributes.flatMap Attribute.events) := by
  induction attributes with
  | nil => rfl
  | cons first rest ih =>
      rw [writeAttributes, ih, first.write_performs, List.flatMap_cons, performAll_append]

theorem StartTag.write_performs (start : StartTag) : start.write = performAll start.events := by
  have opening : Event.perform ⟨.verbatim ("<" ++ start.tag), none⟩ = (do push "<"; push start.tag) := by
    funext options buffer
    simp [run_perform, run_bind, run_push, Piece.markup]
  rw [StartTag.write, markupTag_name, StartTag.events, performAll_cons, opening, performAll_append, performAll_append,
    ← writeAttributes_performs, StartTag.conditionalEvents, StartTag.loopEvents, StartTag.ownAttributes]
  cases start.conditional <;> cases start.loop <;>
    simp [remainingAttributes_outside, rest_ofAttributes, performAll_nil, Conditional.write_performs,
      Loop.write_performs]

mutual

theorem Element.write_performs : ∀ element : Element, element.write = performAll element.events
  | ⟨start, children, _⟩ => by
      rw [Element.write, Element.events, performAll_append, start.write_performs, markupTag_name]
      split
      · rw [performAll_singleton, perform_verbatim]
      · have closing : Event.perform ⟨.verbatim start.closing, none⟩ =
            (do push "</"; push start.tag; push ">") := by
          funext options buffer
          simp [run_perform, run_bind, run_push, Piece.markup, StartTag.closing, String.append_assoc]
        rw [performAll_cons, performAll_append, performAll_singleton, perform_verbatim, closing,
          writeNodes_performs children]

theorem Node.write_performs : ∀ node : Node, node.write = performAll node.events
  | .element inner => by rw [Node.write, Node.events, inner.write_performs]
  | .text content _ => by rw [Node.write, Node.events, performAll_singleton, perform_verbatim]
  | .comment content _ => by rw [Node.write, Node.events, performAll_singleton, perform_comment]
  | .interpolation expression span => by
      rw [Node.write, Node.events, writeInterpolation]
      exact required_perform _ _ (some expression) _ _ (perform_mustache _).symm
  | .chain branches _ => by rw [Node.write, Node.events, writeBranches_performs branches]
  | .branch ⟨element, _⟩ => by rw [Node.write, Node.events, element.write_performs]
  | .compound parts span => by
      rw [Node.write, Node.events, performAll_singleton]
      rfl

theorem writeNodes_performs : ∀ nodes : List Node, writeNodes nodes = performAll (nodesEvents nodes)
  | [] => by rw [writeNodes, nodesEvents, performAll_nil]
  | node :: nodes => by
      rw [writeNodes, nodesEvents, performAll_append, node.write_performs, writeNodes_performs nodes]

theorem writeBranches_performs : ∀ branches : List Branch, writeBranches branches = performAll (branchesEvents branches)
  | [] => by rw [writeBranches, branchesEvents, performAll_nil]
  | ⟨element, _⟩ :: branches => by
      rw [writeBranches, branchesEvents, performAll_append, element.write_performs, writeBranches_performs branches]

end

end MiniMarkup
