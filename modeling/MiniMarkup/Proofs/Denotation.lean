import MiniMarkup.Proofs.Events

/-!
# The markup of a tree

The markup of a tree by recursion on the tree alone, with no buffer and no fault. It is the markup of the
tree's events (`nodesMarkup_eq`).
-/

namespace MiniMarkup

def Conditional.markup (options : Options) (conditional : Conditional) : String :=
  match conditional.kind with
  | .when => controlText options "if" ++ condition
  | .elseWhen => controlText options "elif" ++ condition
  | .otherwise => controlText options "else"
where
  condition := quotedText (mustacheText (expressionText conditional.condition))

def aliasMarkup (options : Options) (name : String) : Option String → String
  | none => ""
  | some value => controlText options name ++ quotedText value

def Loop.markup (options : Options) (loop : Loop) (attributes : List Attribute) : String :=
  controlText options "for" ++ quotedText (mustacheText loop.source.text) ++
    aliasMarkup options "for-item" loop.item ++ aliasMarkup options "for-index" loop.index ++
    aliasMarkup options "key" (loopKey? attributes)

def Attribute.markup : Attribute → String
  | .plain name none _ => " " ++ name
  | .plain name (some value) _ => " " ++ name ++ "=" ++ value
  | .directive inner =>
      match inner.boundName? with
      | none => ""
      | some name => " " ++ name ++ quotedText (mustacheText (expressionText inner.expression))

def StartTag.markup (options : Options) (start : StartTag) : String :=
  "<" ++ start.tag ++ start.conditional.elim "" (Conditional.markup options) ++
    start.loop.elim "" (fun loop => loop.markup options start.attributes) ++
    String.join (start.ownAttributes.map Attribute.markup)

mutual

def Element.markup (options : Options) : Element → String
  | ⟨start, children, _⟩ =>
      start.markup options ++
        if start.selfClosing then "/>"
        else ">" ++ nodesMarkup options children ++ "</" ++ start.tag ++ ">"

def Node.markup (options : Options) : Node → String
  | .element inner => inner.markup options
  | .text content _ => content
  | .comment content _ => if options.comments then commentText content else ""
  | .interpolation expression _ => mustacheText expression.text
  | .chain branches _ => branchesMarkup options branches
  | .branch ⟨element, _⟩ => element.markup options
  | .compound _ _ => ""

def nodesMarkup (options : Options) : List Node → String
  | [] => ""
  | node :: nodes => node.markup options ++ nodesMarkup options nodes

def branchesMarkup (options : Options) : List Branch → String
  | [] => ""
  | ⟨element, _⟩ :: branches => element.markup options ++ branchesMarkup options branches

end

/-! ## Markup of events -/

section
variable (options : Options)

theorem eventMarkup_nil : eventMarkup options [] = "" := rfl

theorem eventMarkup_singleton (event : Event) : eventMarkup options [event] = event.piece.markup options := by
  rw [eventMarkup_cons, eventMarkup_nil, String.append_empty]

theorem eventMarkup_flatMap {α : Type} (events : α → List Event) (items : List α) :
    eventMarkup options (items.flatMap events) =
      String.join (items.map fun item => eventMarkup options (events item)) := by
  induction items with
  | nil => rfl
  | cons item items ih => rw [List.flatMap_cons, eventMarkup_append, ih, List.map_cons, String.join_cons]

theorem Conditional.markup_eq (conditional : Conditional) :
    conditional.markup options = eventMarkup options conditional.events := by
  obtain ⟨kind, condition, span⟩ := conditional
  cases kind with
  | when => rw [Conditional.events, eventMarkup_singleton]; rfl
  | elseWhen => rw [Conditional.events, eventMarkup_singleton]; rfl
  | otherwise => simp [Conditional.markup, Conditional.events, eventMarkup_singleton, Piece.markup]

theorem aliasMarkup_eq (name : String) (value : Option String) :
    aliasMarkup options name value = eventMarkup options (controlEvents name value) := by
  cases value with
  | none => rfl
  | some value => rw [aliasMarkup, controlEvents, eventMarkup_singleton, Piece.markup]

theorem Loop.markup_eq (loop : Loop) (attributes : List Attribute) :
    loop.markup options attributes = eventMarkup options (loop.events attributes) := by
  rw [Loop.markup, Loop.events, eventMarkup_cons, eventMarkup_append, eventMarkup_append, Piece.markup,
    aliasMarkup_eq, aliasMarkup_eq, aliasMarkup_eq]
  simp only [String.append_assoc]

theorem Attribute.markup_eq (item : Attribute) : item.markup = eventMarkup options item.events := by
  cases item with
  | plain name value span => cases value <;> rw [Attribute.events, eventMarkup_singleton] <;> rfl
  | directive inner =>
      rw [Attribute.markup, Attribute.events, Directive.events]
      cases inner.boundName? with
      | none => rfl
      | some name => rw [eventMarkup_singleton, Piece.markup]

theorem StartTag.markup_eq (start : StartTag) : start.markup options = eventMarkup options start.events := by
  have conditional : start.conditional.elim "" (Conditional.markup options) =
      eventMarkup options start.conditionalEvents := by
    cases found : start.conditional <;>
      simp [StartTag.conditionalEvents, found, eventMarkup_nil, Conditional.markup_eq]
  have loop : start.loop.elim "" (fun loop => loop.markup options start.attributes) =
      eventMarkup options start.loopEvents := by
    cases found : start.loop <;> simp [StartTag.loopEvents, found, eventMarkup_nil, Loop.markup_eq]
  have attributes : String.join (start.ownAttributes.map Attribute.markup) =
      eventMarkup options (start.ownAttributes.flatMap Attribute.events) := by
    rw [eventMarkup_flatMap, funext (Attribute.markup_eq options)]
  rw [StartTag.markup, StartTag.events, eventMarkup_cons, eventMarkup_append, eventMarkup_append, conditional,
    loop, attributes, Piece.markup]
  simp only [String.append_assoc]

mutual

theorem Element.markup_eq : ∀ element : Element, element.markup options = eventMarkup options element.events
  | ⟨start, children, _⟩ => by
      rw [Element.markup, Element.events, eventMarkup_append, start.markup_eq]
      split
      · rw [eventMarkup_singleton, Piece.markup]
      · rw [eventMarkup_cons, eventMarkup_append, eventMarkup_singleton, nodesMarkup_eq children]
        simp only [Piece.markup, StartTag.closing, String.append_assoc]

theorem Node.markup_eq : ∀ node : Node, node.markup options = eventMarkup options node.events
  | .element inner => by rw [Node.markup, Node.events, inner.markup_eq]
  | .text content _ => by rw [Node.markup, Node.events, eventMarkup_singleton, Piece.markup]
  | .comment content _ => by rw [Node.markup, Node.events, eventMarkup_singleton, Piece.markup]
  | .interpolation expression _ => by rw [Node.markup, Node.events, eventMarkup_singleton, Piece.markup]
  | .chain branches _ => by rw [Node.markup, Node.events, branchesMarkup_eq branches]
  | .branch ⟨element, _⟩ => by rw [Node.markup, Node.events, element.markup_eq]
  | .compound _ _ => by rw [Node.markup, Node.events, eventMarkup_singleton, Piece.markup]

theorem nodesMarkup_eq : ∀ nodes : List Node, nodesMarkup options nodes = eventMarkup options (nodesEvents nodes)
  | [] => rfl
  | node :: nodes => by
      rw [nodesMarkup, nodesEvents, eventMarkup_append, node.markup_eq, nodesMarkup_eq nodes]

theorem branchesMarkup_eq : ∀ branches : List Branch,
    branchesMarkup options branches = eventMarkup options (branchesEvents branches)
  | [] => rfl
  | ⟨element, _⟩ :: branches => by
      rw [branchesMarkup, branchesEvents, eventMarkup_append, element.markup_eq, branchesMarkup_eq branches]

end

end

end MiniMarkup
