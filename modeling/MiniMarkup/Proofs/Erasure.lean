import MiniMarkup.Proofs.Events

/-!
# Erasure of what leaves no trace

Erasure takes out of a template all that neither its markup nor a fault shows. The erased tree goes through the
same events (`nodesEvents_erase`). Where an expression stands, its text and its place remain, under any static
flag: a choice of flags gives one to every place of the tree.
-/

namespace MiniMarkup

/-! ## Erased templates -/

/-- A flag for each place, which is the path to it in the tree. -/
abbrev Flags := List Bool → Bool

def Flags.here (flags : Flags) : Bool :=
  flags []

def Flags.first (flags : Flags) : Flags :=
  fun path => flags (false :: path)

def Flags.rest (flags : Flags) : Flags :=
  fun path => flags (true :: path)

def Expression.flat (isStatic : Bool) (expression : Expression) : Expression :=
  .simple expression.text isStatic expression.span

def Expression.atNowhere : Expression → Expression
  | .simple content isStatic _ => .simple content isStatic .nowhere
  | .compound parts _ => .compound parts .nowhere

def Conditional.erase (isStatic : Bool) (conditional : Conditional) : Conditional :=
  { conditional with
    condition := if conditional.kind = .otherwise then none else conditional.condition.map (Expression.flat isStatic) }

def Loop.erase (isStatic : Bool) (loop : Loop) : Loop :=
  { loop with source := loop.source.flat isStatic }

def Directive.erase (isStatic : Bool) (directive : Directive) : Directive :=
  { directive with
    argument := directive.argument.map Expression.atNowhere
    expression := directive.expression.map (Expression.flat isStatic)
    modifiers := [] }

/-- Of the directives only the bindings of a named attribute remain. -/
def Attribute.erase? (isStatic : Bool) : Attribute → Option Attribute
  | .plain name value _ => some (.plain name value .nowhere)
  | .directive inner =>
      inner.boundName?.map fun _ => .directive (inner.erase isStatic)

def eraseAttributes (flags : Flags) : List Attribute → List Attribute
  | [] => []
  | item :: rest => (item.erase? flags.first.here).toList ++ eraseAttributes flags.rest rest

def StartTag.erase (flags : Flags) (start : StartTag) : StartTag where
  name := if start.name = "template" then "block" else start.name
  attributes := eraseAttributes flags.rest start.attributes
  selfClosing := start.selfClosing
  conditional := start.conditional.map (Conditional.erase flags.first.first.here)
  loop := start.loop.map (Loop.erase flags.first.rest.here)

mutual

def Element.erase (flags : Flags) : Element → Element
  | ⟨start, children, _⟩ =>
      ⟨start.erase flags.first, if start.selfClosing then [] else eraseNodes flags.rest children, .nowhere⟩

def Node.erase (flags : Flags) : Node → Node
  | .element inner => .element (inner.erase flags)
  | .text content _ => .text content .nowhere
  | .comment content _ => .comment content .nowhere
  | .interpolation expression span => .interpolation (expression.flat flags.here) span
  | .chain branches _ => .chain (eraseBranches flags branches) .nowhere
  | .branch ⟨element, _⟩ => .branch ⟨element.erase flags, .nowhere⟩
  | .compound _ span => .compound [] span

def eraseNodes (flags : Flags) : List Node → List Node
  | [] => []
  | node :: nodes => node.erase flags.first :: eraseNodes flags.rest nodes

def eraseBranches (flags : Flags) : List Branch → List Branch
  | [] => []
  | ⟨element, _⟩ :: branches => ⟨element.erase flags.first, .nowhere⟩ :: eraseBranches flags.rest branches

end

def Template.erase (flags : Flags) (template : Template) : Template where
  children := eraseNodes flags template.children
  source := ""
  span := .nowhere

/-! ## Erased expressions -/

section
variable (isStatic : Bool)

theorem text_flat (expression : Expression) : (expression.flat isStatic).text = expression.text :=
  Expression.text_simple _ _ _

theorem expressionText_flat (expression : Option Expression) :
    expressionText (expression.map (Expression.flat isStatic)) = expressionText expression := by
  cases expression with
  | none => rfl
  | some expression => exact text_flat isStatic expression

theorem requiredFault_flat (kind : Fault.Kind) (holder : Span) (expression : Option Expression) :
    requiredFault kind holder (expression.map (Expression.flat isStatic)) = requiredFault kind holder expression := by
  cases expression with
  | none => rfl
  | some expression =>
      have blank : (expression.flat isStatic).isBlank = expression.isBlank := by
        rw [Expression.isBlank, text_flat, Expression.isBlank]
      rw [Option.map_some, requiredFault_some, requiredFault_some, blank]
      rfl

theorem Conditional.events_erase (conditional : Conditional) :
    (conditional.erase isStatic).events = conditional.events := by
  obtain ⟨kind, condition, span⟩ := conditional
  have tested (name : String) :
      Event.mk (.control name (quotedText (mustacheText (expressionText (condition.map (Expression.flat isStatic))))))
          (requiredFault .missingCondition span (condition.map (Expression.flat isStatic))) =
        ⟨.control name (quotedText (mustacheText (expressionText condition))),
          requiredFault .missingCondition span condition⟩ := by
    rw [expressionText_flat, requiredFault_flat]
  cases kind with
  | when => exact congrArg ([·]) (tested "if")
  | elseWhen => exact congrArg ([·]) (tested "elif")
  | otherwise => rfl

/-! ## Erased attributes -/

theorem Directive.boundName?_erase (directive : Directive) :
    (directive.erase isStatic).boundName? = directive.boundName? := by
  obtain ⟨kind, argument, expression, modifiers, span⟩ := directive
  rcases argument with _ | ⟨content, static, place⟩ | ⟨parts, place⟩ <;> cases kind <;> rfl

theorem Directive.events_erase (directive : Directive) : (directive.erase isStatic).events = directive.events := by
  have value : expressionText (directive.erase isStatic).expression = expressionText directive.expression :=
    expressionText_flat isStatic directive.expression
  have fault : (directive.erase isStatic).fault = directive.fault :=
    requiredFault_flat isStatic .missingBinding directive.span directive.expression
  rw [Directive.events, Directive.boundName?_erase, value, fault, Directive.events]

theorem Attribute.events_erase? (item : Attribute) :
    (item.erase? isStatic).toList.flatMap Attribute.events = item.events := by
  cases item with
  | plain name value span => cases value <;> rfl
  | directive inner =>
      have events := inner.events_erase isStatic
      rw [Attribute.erase?, Attribute.events]
      cases bound : inner.boundName? with
      | none =>
          rw [Directive.events, bound]
          rfl
      | some name =>
          rw [Option.map_some, Option.toList_some, List.flatMap_singleton]
          exact events

theorem Attribute.erase?_of_bindsKey {binding : Directive} (key : (Attribute.directive binding).BindsKey) :
    (Attribute.directive binding).erase? isStatic = some (.directive (binding.erase isStatic)) := by
  rw [Attribute.erase?, Directive.bindsKey_iff.1 key, Option.map_some]

theorem Attribute.bindsKey_erase {item left : Attribute} (erased : item.erase? isStatic = some left) :
    left.BindsKey ↔ item.BindsKey := by
  cases item with
  | plain name value span =>
      cases erased
      exact iff_of_false nofun nofun
  | directive inner =>
      obtain ⟨-, -, rfl⟩ := Option.map_eq_some_iff.1 erased
      exact Directive.bindsKey_congr (inner.boundName?_erase isStatic)

end

theorem loopKey?_erase (flags : Flags) (attributes : List Attribute) :
    loopKey? (eraseAttributes flags attributes) = loopKey? attributes := by
  induction attributes generalizing flags with
  | nil => rfl
  | cons item rest ih =>
      rw [eraseAttributes]
      by_cases key : item.BindsKey
      · obtain ⟨binding, -, -, rfl, -⟩ := id key
        have erased := Attribute.erase?_of_bindsKey flags.first.here key
        rw [erased, Option.toList_some, List.singleton_append, loopKey?_cons_key key,
          loopKey?_cons_key ((Attribute.bindsKey_erase _ erased).2 key)]
        have expression : (Attribute.directive (binding.erase flags.first.here)).expression? =
            binding.expression.map (Expression.flat flags.first.here) := rfl
        rw [expression, Option.bind_map]
        exact congrArg (Option.bind _) (funext fun expression => congrArg loopKey (text_flat _ expression))
      · rw [loopKey?_cons key, ← ih flags.rest]
        cases erased : item.erase? flags.first.here with
        | none => rfl
        | some left => exact loopKey?_cons (mt (Attribute.bindsKey_erase _ erased).1 key) _

theorem attributesEvents_erase (flags : Flags) (attributes : List Attribute) :
    (eraseAttributes flags attributes).flatMap Attribute.events = attributes.flatMap Attribute.events := by
  induction attributes generalizing flags with
  | nil => rfl
  | cons item rest ih =>
      rw [eraseAttributes, List.flatMap_append, item.events_erase?, ih, List.flatMap_cons]

/-- The first key binding is found among the erased attributes where it was, less those dropped before it. -/
theorem remainingEvents_erase (inLoop : Bool) (flags : Flags) (attributes : List Attribute) :
    (remainingAttributes inLoop (eraseAttributes flags attributes)).flatMap Attribute.events =
      (remainingAttributes inLoop attributes).flatMap Attribute.events := by
  cases inLoop with
  | false => exact attributesEvents_erase flags attributes
  | true =>
      induction attributes generalizing flags with
      | nil => rfl
      | cons item rest ih =>
          have written := item.events_erase? flags.first.here
          rw [eraseAttributes]
          cases erased : item.erase? flags.first.here with
          | none =>
              have other : ¬item.BindsKey := fun key => by
                obtain ⟨binding, -, -, rfl, -⟩ := id key
                rw [Attribute.erase?_of_bindsKey _ key] at erased
                cases erased
              rw [erased] at written
              rw [remainingAttributes_cons (fun _ => other), List.flatMap_cons, ← written]
              exact ih flags.rest
          | some left =>
              have same := Attribute.bindsKey_erase _ erased
              rw [Option.toList_some, List.singleton_append]
              by_cases hoisted : item.BindsKey
              · -- Both lists lose their head to the loop, and behind it attributes stand as outside a loop.
                rw [remainingAttributes_cons_key hoisted, remainingAttributes_cons_key (same.2 hoisted)]
                exact attributesEvents_erase flags.rest rest
              · rw [erased, Option.toList_some, List.flatMap_singleton] at written
                rw [remainingAttributes_cons (fun _ => hoisted), remainingAttributes_cons (fun _ => mt same.1 hoisted),
                  List.flatMap_cons, List.flatMap_cons, written, ih]

/-! ## Erased trees -/

theorem StartTag.tag_erase (flags : Flags) (start : StartTag) : (start.erase flags).tag = start.tag := by
  have stays : start.tag ≠ "template" := by
    rw [StartTag.tag]
    split
    · decide
    · assumption
  exact if_neg stays

theorem Loop.events_erase (isStatic : Bool) (flags : Flags) (loop : Loop) (attributes : List Attribute) :
    (loop.erase isStatic).events (eraseAttributes flags attributes) = loop.events attributes := by
  have source : (loop.erase isStatic).source.text = loop.source.text := text_flat isStatic loop.source
  have fault : (loop.erase isStatic).fault = loop.fault :=
    requiredFault_flat isStatic .missingLoopSource loop.span (some loop.source)
  rw [Loop.events, source, fault, loopKey?_erase]
  rfl

theorem StartTag.events_erase (flags : Flags) (start : StartTag) : (start.erase flags).events = start.events := by
  have conditional : (start.erase flags).conditionalEvents = start.conditionalEvents := by
    rw [StartTag.conditionalEvents, StartTag.erase]
    cases found : start.conditional with
    | none => simp [StartTag.conditionalEvents, found]
    | some conditional => simp [StartTag.conditionalEvents, found, Conditional.events_erase]
  have loop : (start.erase flags).loopEvents = start.loopEvents := by
    rw [StartTag.loopEvents, StartTag.erase]
    cases found : start.loop with
    | none => simp [StartTag.loopEvents, found]
    | some loop => simp [StartTag.loopEvents, found, Loop.events_erase]
  have own : (start.erase flags).ownAttributes.flatMap Attribute.events =
      start.ownAttributes.flatMap Attribute.events := by
    rw [StartTag.ownAttributes, StartTag.erase, Option.isSome_map]
    exact remainingEvents_erase start.loop.isSome flags.rest start.attributes
  rw [StartTag.events, StartTag.events, conditional, loop, own, StartTag.tag_erase]

theorem StartTag.closing_erase (flags : Flags) (start : StartTag) : (start.erase flags).closing = start.closing := by
  rw [StartTag.closing, StartTag.tag_erase, StartTag.closing]

mutual

theorem Element.events_erase (flags : Flags) : ∀ element : Element, (element.erase flags).events = element.events
  | ⟨start, children, _⟩ => by
      have closes : (start.erase flags.first).selfClosing = start.selfClosing := rfl
      rw [Element.erase, Element.events, Element.events, start.events_erase, start.closing_erase, closes]
      split
      · rfl
      · rw [eraseNodes_events flags.rest children]

theorem Node.events_erase (flags : Flags) : ∀ node : Node, (node.erase flags).events = node.events
  | .element inner => by rw [Node.erase, Node.events, Node.events, inner.events_erase]
  | .text _ _ | .comment _ _ | .compound _ _ => rfl
  | .interpolation expression span => by
      have fault := requiredFault_flat flags.here .missingInterpolation span (some expression)
      rw [Option.map_some] at fault
      rw [Node.erase, Node.events, Node.events, text_flat, fault]
  | .chain branches _ => by rw [Node.erase, Node.events, Node.events, eraseBranches_events flags branches]
  | .branch ⟨element, _⟩ => by rw [Node.erase, Node.events, Node.events, element.events_erase]

theorem eraseNodes_events (flags : Flags) : ∀ nodes : List Node, nodesEvents (eraseNodes flags nodes) = nodesEvents nodes
  | [] => rfl
  | node :: nodes => by
      rw [eraseNodes, nodesEvents, nodesEvents, node.events_erase, eraseNodes_events flags.rest nodes]

theorem eraseBranches_events (flags : Flags) : ∀ branches : List Branch,
    branchesEvents (eraseBranches flags branches) = branchesEvents branches
  | [] => rfl
  | ⟨element, _⟩ :: branches => by
      rw [eraseBranches, branchesEvents, branchesEvents, element.events_erase, eraseBranches_events flags.rest branches]

end

/-! ## The statement -/

theorem erasure_leaves_markup (template : Template) (flags : Flags) (options : Options) :
    (template.erase flags).toMarkup options = template.toMarkup options := by
  rw [Template.toMarkup, Template.toMarkup, Template.erase, writeNodes_performs, writeNodes_performs,
    eraseNodes_events]

example : Template.erase (fun _ => false)
    ⟨[.element ⟨{ name := "template", attributes := [.directive { kind := .event }, .plain "lazy" none .nowhere],
                  selfClosing := true
                  conditional := some { kind := .otherwise, condition := some (.simple "x" true .nowhere) } },
      [.text "unseen" .nowhere], .nowhere⟩], "source", .nowhere⟩ =
    ⟨[.element ⟨{ name := "block", attributes := [.plain "lazy" none .nowhere], selfClosing := true
                  conditional := some { kind := .otherwise } }, [], .nowhere⟩], "", .nowhere⟩ := rfl

end MiniMarkup
