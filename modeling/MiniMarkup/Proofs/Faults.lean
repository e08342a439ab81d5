import MiniMarkup.Proofs.Events

/-!
# The faults of a tree

The faults of a tree in document order: in a start tag the condition, then the source of the loop, then the
attributes that the element writes as its own, and behind it the children, unless the tag closes itself.
They are the faults of the tree's events (`nodesFaults_eq`).
-/

namespace MiniMarkup

def Conditional.faults (conditional : Conditional) : List Fault :=
  match conditional.kind with
  | .when | .elseWhen => conditional.fault.toList
  | .otherwise => []

def Attribute.faults : Attribute → List Fault
  | .plain _ _ _ => []
  | .directive inner => (inner.boundName?.bind fun _ => inner.fault).toList

def StartTag.faults (start : StartTag) : List Fault :=
  start.conditional.elim [] Conditional.faults ++ (start.loop.bind Loop.fault).toList ++
    start.ownAttributes.flatMap Attribute.faults

mutual

def Element.faults : Element → List Fault
  | ⟨start, children, _⟩ => start.faults ++ if start.selfClosing then [] else nodesFaults children

def Node.faults : Node → List Fault
  | .element inner => inner.faults
  | .text _ _ | .comment _ _ => []
  | .interpolation expression span => (requiredFault .missingInterpolation span expression).toList
  | .chain branches _ => branchesFaults branches
  | .branch ⟨element, _⟩ => element.faults
  | .compound _ span => [⟨.node .compound, span.known?⟩]

def nodesFaults : List Node → List Fault
  | [] => []
  | node :: nodes => node.faults ++ nodesFaults nodes

def branchesFaults : List Branch → List Fault
  | [] => []
  | ⟨element, _⟩ :: branches => element.faults ++ branchesFaults branches

end

theorem Node.faults_compound (parts : List Part) (span : Span) :
    (Node.compound parts span).faults = [.of (.node .compound) span] := by
  rw [Node.faults, Fault.of_eq]

/-! ## Faults among events -/

theorem eventFaults_nil : eventFaults [] = [] := rfl

theorem eventFaults_cons (event : Event) (events : List Event) :
    eventFaults (event :: events) = event.fault.toList ++ eventFaults events := by
  obtain ⟨piece, _ | fault⟩ := event <;> rfl

theorem eventFaults_flatMap {α : Type} (events : α → List Event) (items : List α) :
    eventFaults (items.flatMap events) = items.flatMap fun item => eventFaults (events item) := by
  simp [eventFaults, List.filterMap_flatMap]

theorem Conditional.faults_eq (conditional : Conditional) : conditional.faults = eventFaults conditional.events := by
  obtain ⟨kind, condition, span⟩ := conditional
  cases kind <;> simp [Conditional.faults, Conditional.events, eventFaults_cons, eventFaults_nil]

theorem eventFaults_controlEvents (name : String) (value : Option String) :
    eventFaults (controlEvents name value) = [] := by
  cases value <;> rfl

theorem eventFaults_loopEvents (loop : Loop) (attributes : List Attribute) :
    eventFaults (loop.events attributes) = loop.fault.toList := by
  simp [Loop.events, eventFaults_cons, eventFaults_append, eventFaults_controlEvents]

theorem Attribute.faults_eq (item : Attribute) : item.faults = eventFaults item.events := by
  cases item with
  | plain name value span => cases value <;> rfl
  | directive inner =>
      rw [Attribute.faults, Attribute.events, Directive.events]
      cases inner.boundName? with
      | none => rfl
      | some name => rw [Option.bind_some, eventFaults_cons, eventFaults_nil, List.append_nil]

theorem StartTag.conditionalFaults_eq (start : StartTag) :
    start.conditional.elim [] Conditional.faults = eventFaults start.conditionalEvents := by
  cases found : start.conditional <;> simp [StartTag.conditionalEvents, found, eventFaults_nil, Conditional.faults_eq]

theorem StartTag.loopFaults_eq (start : StartTag) :
    (start.loop.bind Loop.fault).toList = eventFaults start.loopEvents := by
  cases found : start.loop <;> simp [StartTag.loopEvents, found, eventFaults_nil, eventFaults_loopEvents]

theorem attributesFaults_eq (attributes : List Attribute) :
    attributes.flatMap Attribute.faults = eventFaults (attributes.flatMap Attribute.events) := by
  rw [eventFaults_flatMap, funext Attribute.faults_eq]

theorem StartTag.faults_eq (start : StartTag) : start.faults = eventFaults start.events := by
  rw [StartTag.faults, StartTag.events, eventFaults_cons, eventFaults_append, eventFaults_append,
    start.conditionalFaults_eq, start.loopFaults_eq, attributesFaults_eq]
  rfl

mutual

theorem Element.faults_eq : ∀ element : Element, element.faults = eventFaults element.events
  | ⟨start, children, _⟩ => by
      rw [Element.faults, Element.events, eventFaults_append, start.faults_eq]
      split
      · rfl
      · rw [eventFaults_cons, eventFaults_append, nodesFaults_eq children]
        simp [eventFaults_cons, eventFaults_nil]

theorem Node.faults_eq : ∀ node : Node, node.faults = eventFaults node.events
  | .element inner => by rw [Node.faults, Node.events, inner.faults_eq]
  | .text _ _ | .comment _ _ => rfl
  | .interpolation expression span => by
      rw [Node.faults, Node.events, eventFaults_cons, eventFaults_nil, List.append_nil]
  | .chain branches _ => by rw [Node.faults, Node.events, branchesFaults_eq branches]
  | .branch ⟨element, _⟩ => by rw [Node.faults, Node.events, element.faults_eq]
  | .compound _ _ => Node.faults_compound _ _

theorem nodesFaults_eq : ∀ nodes : List Node, nodesFaults nodes = eventFaults (nodesEvents nodes)
  | [] => rfl
  | node :: nodes => by
      rw [nodesFaults, nodesEvents, eventFaults_append, node.faults_eq, nodesFaults_eq nodes]

theorem branchesFaults_eq : ∀ branches : List Branch, branchesFaults branches = eventFaults (branchesEvents branches)
  | [] => rfl
  | ⟨element, _⟩ :: branches => by
      rw [branchesFaults, branchesEvents, eventFaults_append, element.faults_eq, branchesFaults_eq branches]

end

end MiniMarkup
