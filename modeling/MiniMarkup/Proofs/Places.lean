import MiniMarkup.Proofs.Outcome

/-!
# Markup and places

Templates that differ only in where their parts lie are the same once every place is taken out of them. Places
show in no piece and decide no fault, so that both go through one outline (`nodesEvents_placeless`), and what
tells their runs apart is the place of the fault.
-/

namespace MiniMarkup

/-! ## Templates without places -/

mutual

def Expression.placeless : Expression → Expression
  | .simple content isStatic _ => .simple content isStatic .nowhere
  | .compound parts _ => .compound (partsPlaceless parts) .nowhere

def Part.placeless : Part → Part
  | .expression inner => .expression inner.placeless
  | .interpolation inner _ => .interpolation inner.placeless .nowhere
  | .text content _ => .text content .nowhere
  | .literal content => .literal content

def partsPlaceless : List Part → List Part
  | [] => []
  | part :: parts => part.placeless :: partsPlaceless parts

end

def Directive.placeless (directive : Directive) : Directive :=
  { directive with
    argument := directive.argument.map Expression.placeless
    expression := directive.expression.map Expression.placeless
    span := .nowhere }

def Attribute.placeless : Attribute → Attribute
  | .plain name value _ => .plain name value .nowhere
  | .directive inner => .directive inner.placeless

def Conditional.placeless (conditional : Conditional) : Conditional :=
  { conditional with condition := conditional.condition.map Expression.placeless, span := .nowhere }

def Loop.placeless (loop : Loop) : Loop :=
  { loop with source := loop.source.placeless, span := .nowhere }

def StartTag.placeless (start : StartTag) : StartTag :=
  { start with
    attributes := start.attributes.map Attribute.placeless
    conditional := start.conditional.map Conditional.placeless
    loop := start.loop.map Loop.placeless }

mutual

def Element.placeless : Element → Element
  | ⟨start, children, _⟩ => ⟨start.placeless, nodesPlaceless children, .nowhere⟩

def Node.placeless : Node → Node
  | .element inner => .element inner.placeless
  | .text content _ => .text content .nowhere
  | .comment content _ => .comment content .nowhere
  | .interpolation expression _ => .interpolation expression.placeless .nowhere
  | .chain branches _ => .chain (branchesPlaceless branches) .nowhere
  | .branch ⟨element, _⟩ => .branch ⟨element.placeless, .nowhere⟩
  | .compound parts _ => .compound (partsPlaceless parts) .nowhere

def nodesPlaceless : List Node → List Node
  | [] => []
  | node :: nodes => node.placeless :: nodesPlaceless nodes

def branchesPlaceless : List Branch → List Branch
  | [] => []
  | ⟨element, _⟩ :: branches => ⟨element.placeless, .nowhere⟩ :: branchesPlaceless branches

end

def Template.placeless (template : Template) : Template :=
  { template with children := nodesPlaceless template.children, span := .nowhere }

/-! ## Expressions and attributes -/

mutual

theorem Expression.leaves_placeless : ∀ expression : Expression, expression.placeless.leaves = expression.leaves
  | .simple _ _ _ => rfl
  | .compound parts _ => by
      rw [Expression.placeless, Expression.leaves, Expression.leaves, partsLeaves_placeless parts]

theorem Part.leaves_placeless : ∀ part : Part, Expression.partLeaves part.placeless = Expression.partLeaves part
  | .expression inner => by
      rw [Part.placeless, Expression.partLeaves, Expression.partLeaves, inner.leaves_placeless]
  | .interpolation inner _ => by
      rw [Part.placeless, Expression.partLeaves, Expression.partLeaves, inner.leaves_placeless]
  | .text _ _ | .literal _ => rfl

theorem partsLeaves_placeless : ∀ parts : List Part,
    Expression.partsLeaves (partsPlaceless parts) = Expression.partsLeaves parts
  | [] => rfl
  | part :: parts => by
      rw [partsPlaceless, Expression.partsLeaves, Expression.partsLeaves, part.leaves_placeless,
        partsLeaves_placeless parts]

end

theorem Expression.text_placeless (expression : Expression) : expression.placeless.text = expression.text := by
  rw [Expression.text_eq_join_leaves, Expression.text_eq_join_leaves, expression.leaves_placeless]

theorem expressionText_placeless (expression : Option Expression) :
    expressionText (expression.map Expression.placeless) = expressionText expression := by
  cases expression with
  | none => rfl
  | some expression => exact expression.text_placeless

theorem Directive.boundName?_placeless (directive : Directive) :
    directive.placeless.boundName? = directive.boundName? := by
  obtain ⟨kind, argument, expression, modifiers, span⟩ := directive
  rcases argument with _ | ⟨content, isStatic, place⟩ | ⟨parts, place⟩ <;> cases kind <;> rfl

theorem Attribute.bindsKey_placeless (item : Attribute) : item.placeless.BindsKey ↔ item.BindsKey := by
  cases item with
  | plain name value span => exact iff_of_false nofun nofun
  | directive inner => exact Directive.bindsKey_congr inner.boundName?_placeless

theorem Attribute.expression?_placeless (item : Attribute) :
    item.placeless.expression? = item.expression?.map Expression.placeless := by
  cases item <;> rfl

theorem loopKey?_placeless (attributes : List Attribute) :
    loopKey? (attributes.map Attribute.placeless) = loopKey? attributes := by
  induction attributes with
  | nil => rfl
  | cons item rest ih =>
      rw [List.map_cons]
      by_cases key : item.BindsKey
      · rw [loopKey?_cons_key key, loopKey?_cons_key (item.bindsKey_placeless.2 key), item.expression?_placeless,
          Option.bind_map]
        exact congrArg (Option.bind _) (funext fun expression => congrArg loopKey expression.text_placeless)
      · rw [loopKey?_cons key, loopKey?_cons (mt item.bindsKey_placeless.1 key), ih]

theorem remainingAttributes_placeless (inLoop : Bool) (attributes : List Attribute) :
    remainingAttributes inLoop (attributes.map Attribute.placeless) =
      (remainingAttributes inLoop attributes).map Attribute.placeless := by
  cases inLoop with
  | false => rfl
  | true =>
      rw [remainingAttributes, remainingAttributes, if_pos rfl, if_pos rfl, List.eraseP_map]
      congr 2
      exact funext fun item => decide_eq_decide.2 item.bindsKey_placeless

/-! ## Outlines -/

/-- What is left of an event without the place of its fault. -/
def Event.outline (event : Event) : Piece × Option Fault.Cause :=
  (event.piece, event.fault.map Fault.cause)

def outlines (events : List Event) : List (Piece × Option Fault.Cause) :=
  events.map Event.outline

theorem outlines_cons (event : Event) (events : List Event) :
    outlines (event :: events) = event.outline :: outlines events := rfl

theorem outlines_append (before behind : List Event) :
    outlines (before ++ behind) = outlines before ++ outlines behind :=
  List.map_append

theorem requiredFault_cause (kind : Fault.Kind) (holder : Span) (expression : Option Expression) :
    (requiredFault kind holder expression).map Fault.cause =
      if Text.isBlank (expressionText expression) then some (.plain kind) else none := by
  cases expression with
  | none => rfl
  | some expression =>
      rw [requiredFault_some, Expression.isBlank]
      have text : expressionText (some expression) = expression.text := rfl
      rw [text]
      split <;> rfl

/-- A required expression is missing or blank wherever it and its holder lie. -/
theorem outline_required (piece : Piece) (kind : Fault.Kind) (holder moved : Span) (expression : Option Expression) :
    Event.outline ⟨piece, requiredFault kind moved (expression.map Expression.placeless)⟩ =
      Event.outline ⟨piece, requiredFault kind holder expression⟩ := by
  rw [Event.outline, Event.outline, requiredFault_cause, requiredFault_cause, expressionText_placeless]

theorem Conditional.outlines_placeless (conditional : Conditional) :
    outlines conditional.placeless.events = outlines conditional.events := by
  obtain ⟨kind, condition, span⟩ := conditional
  have value : Conditional.events.value (Conditional.placeless ⟨kind, condition, span⟩) =
      Conditional.events.value ⟨kind, condition, span⟩ :=
    congrArg (quotedText <| mustacheText ·) (expressionText_placeless condition)
  have tested (name : String) :
      outlines [⟨.control name (Conditional.events.value (Conditional.placeless ⟨kind, condition, span⟩)),
          (Conditional.placeless ⟨kind, condition, span⟩).fault⟩] =
        outlines [⟨.control name (Conditional.events.value ⟨kind, condition, span⟩),
          Conditional.fault ⟨kind, condition, span⟩⟩] := by
    rw [value]
    exact congrArg ([·]) (outline_required _ .missingCondition span .nowhere condition)
  cases kind with
  | when => exact tested "if"
  | elseWhen => exact tested "elif"
  | otherwise => rfl

theorem Loop.outlines_placeless (loop : Loop) (attributes : List Attribute) :
    outlines (loop.placeless.events (attributes.map Attribute.placeless)) = outlines (loop.events attributes) := by
  have text : loop.placeless.source.text = loop.source.text := loop.source.text_placeless
  rw [Loop.events, Loop.events, outlines_cons, outlines_cons, loopKey?_placeless, text]
  exact congrArg (· :: _) (outline_required _ .missingLoopSource loop.span .nowhere (some loop.source))

theorem Directive.outlines_placeless (directive : Directive) :
    outlines directive.placeless.events = outlines directive.events := by
  have value : expressionText directive.placeless.expression = expressionText directive.expression :=
    expressionText_placeless directive.expression
  rw [Directive.events, directive.boundName?_placeless, value, Directive.events]
  cases directive.boundName? with
  | none => rfl
  | some name => exact congrArg ([·]) (outline_required _ .missingBinding directive.span .nowhere directive.expression)

theorem Attribute.outlines_placeless (item : Attribute) : outlines item.placeless.events = outlines item.events := by
  cases item with
  | plain name value span => cases value <;> rfl
  | directive inner => exact inner.outlines_placeless

theorem attributesOutlines_placeless (attributes : List Attribute) :
    outlines ((attributes.map Attribute.placeless).flatMap Attribute.events) =
      outlines (attributes.flatMap Attribute.events) := by
  induction attributes with
  | nil => rfl
  | cons item rest ih =>
      rw [List.map_cons, List.flatMap_cons, List.flatMap_cons, outlines_append, outlines_append,
        item.outlines_placeless, ih]

theorem StartTag.outlines_placeless (start : StartTag) : outlines start.placeless.events = outlines start.events := by
  have conditional : outlines start.placeless.conditionalEvents = outlines start.conditionalEvents := by
    rw [StartTag.conditionalEvents, StartTag.conditionalEvents, StartTag.placeless]
    cases start.conditional with
    | none => rfl
    | some conditional => exact conditional.outlines_placeless
  have loop : outlines start.placeless.loopEvents = outlines start.loopEvents := by
    rw [StartTag.loopEvents, StartTag.loopEvents, StartTag.placeless]
    cases start.loop with
    | none => rfl
    | some loop => exact loop.outlines_placeless start.attributes
  have own : outlines (start.placeless.ownAttributes.flatMap Attribute.events) =
      outlines (start.ownAttributes.flatMap Attribute.events) := by
    rw [StartTag.ownAttributes, StartTag.placeless, Option.isSome_map, remainingAttributes_placeless,
      attributesOutlines_placeless, StartTag.ownAttributes]
  rw [StartTag.events, StartTag.events, outlines_cons, outlines_cons, outlines_append, outlines_append, outlines_append,
    outlines_append, conditional, loop, own]
  rfl

mutual

theorem Element.outlines_placeless : ∀ element : Element, outlines element.placeless.events = outlines element.events
  | ⟨start, children, _⟩ => by
      have closes : start.placeless.selfClosing = start.selfClosing := rfl
      have closing : start.placeless.closing = start.closing := rfl
      rw [Element.placeless, Element.events, Element.events, outlines_append, outlines_append,
        start.outlines_placeless, closes, closing]
      split
      · rfl
      · rw [outlines_cons, outlines_cons, outlines_append, outlines_append, nodesOutlines_placeless children]

theorem Node.outlines_placeless : ∀ node : Node, outlines node.placeless.events = outlines node.events
  | .element inner => by rw [Node.placeless, Node.events, Node.events, inner.outlines_placeless]
  | .text _ _ | .comment _ _ | .compound _ _ => rfl
  | .interpolation expression span => by
      rw [Node.placeless, Node.events, Node.events, expression.text_placeless]
      exact congrArg ([·]) (outline_required _ .missingInterpolation span .nowhere (some expression))
  | .chain branches _ => by rw [Node.placeless, Node.events, Node.events, branchesOutlines_placeless branches]
  | .branch ⟨element, _⟩ => by rw [Node.placeless, Node.events, Node.events, element.outlines_placeless]

theorem nodesOutlines_placeless : ∀ nodes : List Node,
    outlines (nodesEvents (nodesPlaceless nodes)) = outlines (nodesEvents nodes)
  | [] => rfl
  | node :: nodes => by
      rw [nodesPlaceless, nodesEvents, nodesEvents, outlines_append, outlines_append, node.outlines_placeless,
        nodesOutlines_placeless nodes]

theorem branchesOutlines_placeless : ∀ branches : List Branch,
    outlines (branchesEvents (branchesPlaceless branches)) = outlines (branchesEvents branches)
  | [] => rfl
  | ⟨element, _⟩ :: branches => by
      rw [branchesPlaceless, branchesEvents, branchesEvents, outlines_append, outlines_append,
        element.outlines_placeless, branchesOutlines_placeless branches]

end

/-! ## Runs with one outline -/

section
variable {events moved : List Event} (same : outlines events = outlines moved)
include same

theorem eventMarkup_of_outlines (options : Options) : eventMarkup options events = eventMarkup options moved := by
  have outlined (events : List Event) : eventMarkup options events =
      String.join ((outlines events).map fun outline => outline.1.markup options) := by
    rw [eventMarkup, outlines, List.map_map]
    rfl
  rw [outlined, outlined, same]

theorem causes_of_outlines : (eventFaults events).map Fault.cause = (eventFaults moved).map Fault.cause := by
  have outlined (events : List Event) : (eventFaults events).map Fault.cause = (outlines events).filterMap Prod.snd := by
    rw [eventFaults, outlines, List.map_filterMap, List.filterMap_map]
    rfl
  rw [outlined, outlined, same]

theorem faultless_of_outlines : outlines (faultless events) = outlines (faultless moved) := by
  have outlined (events : List Event) : outlines (faultless events) =
      (outlines events).takeWhile fun outline => outline.2.isNone := by
    rw [outlines, outlines, List.takeWhile_map, faultless]
    congr 2
    funext event
    exact (Option.isNone_map).symm
  rw [outlined, outlined, same]

end

/-! ## What a fault reads -/

namespace Fault

/-- A fault reads as a text when its message is that text with the fault's place, if it has one, behind it. -/
structure Reads (fault : Fault) (text : String) : Prop where
  message : fault.message = text ++ place fault.span
  unplaced : fault.message = text ↔ fault.span = none

theorem place_eq_empty_iff {span : Option Span} : place span = "" ↔ span = none := by
  cases span with
  | none => exact iff_of_true rfl rfl
  | some span => simp [place]

theorem reads_cause (fault : Fault) : fault.Reads fault.cause.message where
  message := rfl
  unplaced := by rw [message, String.append_eq_left_iff, place_eq_empty_iff]

end Fault

/-! ## The statement -/

theorem nodesOutlines_of_placeless {nodes moved : List Node} (same : nodesPlaceless nodes = nodesPlaceless moved) :
    outlines (nodesEvents nodes) = outlines (nodesEvents moved) := by
  rw [← nodesOutlines_placeless nodes, same, nodesOutlines_placeless moved]

theorem places_leave_markup (template moved : Template) (options : Options)
    (same : template.placeless = moved.placeless) :
    ((∃ code, template.toMarkup options = .ok code ∧ moved.toMarkup options = .ok code) ∨
      ∃ fault other text, template.toMarkup options = .error fault ∧ moved.toMarkup options = .error other ∧
        fault.kind = other.kind ∧ fault.Reads text ∧ other.Reads text) ∧
    ∀ buffer, bufferLeft (writeNodes template.children) options buffer =
      bufferLeft (writeNodes moved.children) options buffer := by
  have outlined : outlines (nodesEvents template.children) = outlines (nodesEvents moved.children) :=
    nodesOutlines_of_placeless (congrArg Template.children same)
  have causes : (nodesFaults template.children).map Fault.cause = (nodesFaults moved.children).map Fault.cause := by
    rw [nodesFaults_eq, nodesFaults_eq]
    exact causes_of_outlines outlined
  constructor
  · cases found : nodesFaults template.children with
    | nil =>
        rw [found, List.map_nil, eq_comm, List.map_eq_nil_iff] at causes
        refine .inl ⟨nodesMarkup options template.children, ?_, ?_⟩
        · exact toMarkup_eq_ok_iff.2 ⟨found, rfl⟩
        · rw [nodesMarkup_eq, eventMarkup_of_outlines outlined, ← nodesMarkup_eq]
          exact toMarkup_eq_ok_iff.2 ⟨causes, rfl⟩
    | cons fault faults =>
        rw [found, List.map_cons, eq_comm, List.map_eq_cons_iff] at causes
        obtain ⟨other, others, foundOther, cause, -⟩ := causes
        refine .inr ⟨fault, other, fault.cause.message, ?_, ?_, ?_, fault.reads_cause, ?_⟩
        · rw [toMarkup_eq_error_iff, found, List.head?_cons]
        · rw [toMarkup_eq_error_iff, foundOther, List.head?_cons]
        · rw [Fault.kind, Fault.kind, cause]
        · rw [← cause]
          exact other.reads_cause
  · intro buffer
    rw [bufferLeft_writeNodes, bufferLeft_writeNodes, eventMarkup_of_outlines (faultless_of_outlines outlined)]

/-- A binding without text, whose fault lies at its expression, or else where the binding itself is. -/
def blankTitle (holder own : Span) : Template where
  children :=
    [.text "a" .nowhere,
      .element ⟨{ name := "view"
                  attributes := [.directive { kind := .bind, argument := some (.simple "title" true .nowhere)
                                              expression := some (.simple " " false own), span := holder }] },
        [], .nowhere⟩]

theorem places_leave_markup_blankTitle :
    let title : Span := ⟨⟨9, 2, 4⟩, ⟨10, 2, 5⟩, " "⟩
    let binding : Span := ⟨⟨2, 1, 3⟩, ⟨11, 2, 6⟩, ":title=' '"⟩
    (blankTitle .nowhere title).placeless = (blankTitle binding .nowhere).placeless ∧
    ∃ fault other text, (blankTitle .nowhere title).toMarkup {} = .error fault ∧
      (blankTitle binding .nowhere).toMarkup {} = .error other ∧
      fault.message = "v-bind is missing its expression. (2:4)" ∧
      other.message = "v-bind is missing its expression. (1:3)" ∧
      fault.kind = other.kind ∧ fault.Reads text ∧ other.Reads text ∧
      bufferLeft (writeNodes (blankTitle .nowhere title).children) {} .empty =
        bufferLeft (writeNodes (blankTitle binding .nowhere).children) {} .empty := by
  intro title binding
  have same : (blankTitle .nowhere title).placeless = (blankTitle binding .nowhere).placeless := rfl
  have failed : (blankTitle .nowhere title).toMarkup {} = .error ⟨.plain .missingBinding, some title⟩ :=
    toMarkup_eq_error_iff.2 (by decide)
  have failedOther : (blankTitle binding .nowhere).toMarkup {} = .error ⟨.plain .missingBinding, some binding⟩ :=
    toMarkup_eq_error_iff.2 rfl
  obtain ⟨outcome, left⟩ := places_leave_markup _ _ {} same
  rw [failed, failedOther] at outcome
  obtain ⟨code, written, -⟩ | ⟨fault, other, text, reported, reportedOther, kind, read, readOther⟩ := outcome
  · cases written
  · cases reported
    cases reportedOther
    exact ⟨same, _, _, text, failed, failedOther, by decide, by decide, kind, read, readOther, left .empty⟩

end MiniMarkup
