import MiniMarkup.Proofs.Erasure

/-!
# Templates without chains

A chain only groups its branches. With every chain replaced by its branches, each as a branch node or as its
plain element, a tree goes through the same events (`nodesEvents_spliced`) and holds no chain any more.
-/

namespace MiniMarkup

/-! ## Chains replaced by their branches -/

mutual

def Element.spliced (flags : Flags) : Element → Element
  | ⟨start, children, span⟩ => ⟨start, splicedNodes flags children, span⟩

/-- What stands for a node among its siblings. -/
def Node.spliced (flags : Flags) : Node → List Node
  | .chain branches _ => splicedBranches flags branches
  | .element inner => [.element (inner.spliced flags)]
  | .branch ⟨element, span⟩ => [.branch ⟨element.spliced flags, span⟩]
  | .text content span => [.text content span]
  | .comment content span => [.comment content span]
  | .interpolation expression span => [.interpolation expression span]
  | .compound parts span => [.compound parts span]

def splicedNodes (flags : Flags) : List Node → List Node
  | [] => []
  | node :: nodes => node.spliced flags.first ++ splicedNodes flags.rest nodes

/-- The branches of a chain in its order. A flag tells which of them remain branch nodes. -/
def splicedBranches (flags : Flags) : List Branch → List Node
  | [] => []
  | ⟨element, span⟩ :: branches =>
      let inner := element.spliced flags.first
      (if flags.here then .branch ⟨inner, span⟩ else .element inner) :: splicedBranches flags.rest branches

end

def Template.spliced (flags : Flags) (template : Template) : Template :=
  { template with children := splicedNodes flags template.children }

mutual

/-- The number of chains at every depth. -/
def Element.chains : Element → Nat
  | ⟨_, children, _⟩ => nodesChains children

def Node.chains : Node → Nat
  | .chain branches _ => 1 + branchesChains branches
  | .element inner => inner.chains
  | .branch ⟨element, _⟩ => element.chains
  | .text _ _ | .comment _ _ | .interpolation _ _ | .compound _ _ => 0

def nodesChains : List Node → Nat
  | [] => 0
  | node :: nodes => node.chains + nodesChains nodes

def branchesChains : List Branch → Nat
  | [] => 0
  | ⟨element, _⟩ :: branches => element.chains + branchesChains branches

end

theorem nodesChains_append (before behind : List Node) :
    nodesChains (before ++ behind) = nodesChains before + nodesChains behind := by
  induction before with
  | nil => exact (Nat.zero_add _).symm
  | cons node before ih => rw [List.cons_append, nodesChains, nodesChains, ih, Nat.add_assoc]

mutual

theorem Element.chains_spliced (flags : Flags) : ∀ element : Element, (element.spliced flags).chains = 0
  | ⟨_, children, _⟩ => by rw [Element.spliced, Element.chains, nodesChains_spliced flags children]

theorem Node.chains_spliced (flags : Flags) : ∀ node : Node, nodesChains (node.spliced flags) = 0
  | .chain branches _ => by rw [Node.spliced, branchesChains_spliced flags branches]
  | .element inner => by
      rw [Node.spliced, nodesChains, Node.chains, inner.chains_spliced flags]
      rfl
  | .branch ⟨element, _⟩ => by
      rw [Node.spliced, nodesChains, Node.chains, element.chains_spliced flags]
      rfl
  | .text _ _ | .comment _ _ | .interpolation _ _ | .compound _ _ => rfl

theorem nodesChains_spliced (flags : Flags) : ∀ nodes : List Node, nodesChains (splicedNodes flags nodes) = 0
  | [] => rfl
  | node :: nodes => by
      rw [splicedNodes, nodesChains_append, node.chains_spliced, nodesChains_spliced flags.rest nodes]

theorem branchesChains_spliced (flags : Flags) : ∀ branches : List Branch,
    nodesChains (splicedBranches flags branches) = 0
  | [] => rfl
  | ⟨element, span⟩ :: branches => by
      have inner := element.chains_spliced flags.first
      rw [splicedBranches, nodesChains, branchesChains_spliced flags.rest branches]
      split
      · exact inner
      · exact inner

end

/-! ## Events -/

mutual

theorem Element.events_spliced (flags : Flags) : ∀ element : Element, (element.spliced flags).events = element.events
  | ⟨start, children, _⟩ => by rw [Element.spliced, Element.events, Element.events, nodesEvents_spliced flags children]

theorem Node.events_spliced (flags : Flags) : ∀ node : Node, nodesEvents (node.spliced flags) = node.events
  | .chain branches _ => by rw [Node.spliced, Node.events, branchesEvents_spliced flags branches]
  | .element inner => by
      rw [Node.spliced, nodesEvents, Node.events, Node.events, inner.events_spliced flags]
      exact List.append_nil _
  | .branch ⟨element, _⟩ => by
      rw [Node.spliced, nodesEvents, Node.events, Node.events, element.events_spliced flags]
      exact List.append_nil _
  | .text _ _ | .comment _ _ | .interpolation _ _ | .compound _ _ => rfl

theorem nodesEvents_spliced (flags : Flags) : ∀ nodes : List Node,
    nodesEvents (splicedNodes flags nodes) = nodesEvents nodes
  | [] => rfl
  | node :: nodes => by
      rw [splicedNodes, nodesEvents_append, node.events_spliced, nodesEvents_spliced flags.rest nodes, nodesEvents]

theorem branchesEvents_spliced (flags : Flags) : ∀ branches : List Branch,
    nodesEvents (splicedBranches flags branches) = branchesEvents branches
  | [] => rfl
  | ⟨element, span⟩ :: branches => by
      have inner := element.events_spliced flags.first
      rw [splicedBranches, nodesEvents, branchesEvents_spliced flags.rest branches, branchesEvents, ← inner]
      split
      · rfl
      · rfl

end

/-! ## The statement -/

theorem chains_only_group (flags : Flags) :
    (∀ nodes options buffer, writeNodes (splicedNodes flags nodes) options buffer = writeNodes nodes options buffer) ∧
    (∀ template options, (Template.spliced flags template).toMarkup options = template.toMarkup options) ∧
    ∀ nodes, nodesChains (splicedNodes flags nodes) = 0 := by
  have written (nodes : List Node) : writeNodes (splicedNodes flags nodes) = writeNodes nodes := by
    rw [writeNodes_performs, writeNodes_performs, nodesEvents_spliced]
  refine ⟨fun nodes _ _ => by rw [written], ?_, nodesChains_spliced flags⟩
  intro template options
  rw [Template.toMarkup, Template.toMarkup, Template.spliced, written]

example : splicedNodes (·.length == 1)
    [.chain [⟨⟨{ name := "view" }, [.chain [⟨⟨{ name := "text" }, [], .nowhere⟩, .nowhere⟩] .nowhere], .nowhere⟩,
      .nowhere⟩, ⟨⟨{ name := "image" }, [], .nowhere⟩, .nowhere⟩] .nowhere, .chain [] .nowhere] =
    [.branch ⟨⟨{ name := "view" }, [.element ⟨{ name := "text" }, [], .nowhere⟩], .nowhere⟩, .nowhere⟩,
      .element ⟨{ name := "image" }, [], .nowhere⟩] := rfl

end MiniMarkup
