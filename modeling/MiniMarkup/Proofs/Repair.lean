import MiniMarkup.Proofs.Outcome

/-!
# Repairs of the reported fault

A repair puts an expression where the reported fault misses one, or takes out the node that has no markup.
The repaired tree is written like the faulty one up to that place, goes on with the text that was missing,
and has all the other faults (`Repair.events`).
-/

namespace MiniMarkup

/-! ## Repaired trees -/

def Conditional.withCondition (conditional : Conditional) (expression : Expression) : Conditional :=
  { conditional with condition := some expression }

def Loop.withSource (loop : Loop) (expression : Expression) : Loop :=
  { loop with source := expression }

def Directive.withExpression (directive : Directive) (expression : Expression) : Directive :=
  { directive with expression := some expression }

section
variable (directive : Directive) (expression : Expression)

theorem withExpression_boundName? : (directive.withExpression expression).boundName? = directive.boundName? := rfl

theorem withExpression_bindsKey_iff : (Attribute.directive (directive.withExpression expression)).BindsKey ↔
    (Attribute.directive directive).BindsKey :=
  Directive.bindsKey_congr (withExpression_boundName? directive expression)

end

/-- In a loop the first key binding holds no fault, and the attributes behind it are read as outside a loop. -/
inductive AttributesRepair (expression : Expression) :
    (inLoop : Bool) → List Attribute → Fault → List Attribute → String → Prop where
  | here {inLoop directive name fault rest} (named : directive.boundName? = some name)
      (own : inLoop = true → ¬(Attribute.directive directive).BindsKey) (missing : directive.fault = some fault) :
      AttributesRepair expression inLoop (.directive directive :: rest) fault
        (.directive (directive.withExpression expression) :: rest)
        (" " ++ name ++ quotedText (mustacheText expression.text))
  | behindKey {item rest fault mended text} (key : item.BindsKey)
      (repair : AttributesRepair expression false rest fault mended text) :
      AttributesRepair expression true (item :: rest) fault (item :: mended) text
  | behind {inLoop item rest fault mended text} (own : inLoop = true → ¬item.BindsKey)
      (sound : item.faults = []) (repair : AttributesRepair expression inLoop rest fault mended text) :
      AttributesRepair expression inLoop (item :: rest) fault (item :: mended) text

inductive StartTagRepair (options : Options) (expression : Expression) :
    StartTag → Fault → StartTag → String → Prop where
  | condition {start conditional fault} (found : start.conditional = some conditional)
      (tests : conditional.kind ≠ .otherwise) (missing : conditional.fault = some fault) :
      StartTagRepair options expression start fault
        { start with conditional := some (conditional.withCondition expression) }
        ((conditional.withCondition expression).markup options)
  | source {start loop fault} (sound : start.conditional.elim [] Conditional.faults = [])
      (found : start.loop = some loop) (missing : loop.fault = some fault) :
      StartTagRepair options expression start fault
        { start with loop := some (loop.withSource expression) }
        (controlText options "for" ++ quotedText (mustacheText expression.text))
  | binding {start attributes fault text} (sound : start.conditional.elim [] Conditional.faults = [])
      (looped : start.loop.bind Loop.fault = none)
      (repair : AttributesRepair expression start.loop.isSome start.attributes fault attributes text) :
      StartTagRepair options expression start fault { start with attributes } text

/-- `Repair options expression nodes fault mended text`: the first fault of `nodes` is `fault`, `mended` is
`nodes` with `expression` in its place, or without the faulty node, and `text` is what stands there then. -/
inductive Repair (options : Options) (expression : Expression) :
    List Node → Fault → List Node → String → Prop where
  | removal {parts span nodes} :
      Repair options expression (.compound parts span :: nodes) (.of (.node .compound) span) nodes ""
  | interpolation {blank span nodes fault} (missing : requiredFault .missingInterpolation span (some blank) = some fault) :
      Repair options expression (.interpolation blank span :: nodes) fault
        (.interpolation expression span :: nodes) (mustacheText expression.text)
  | start {start children span nodes fault mended text}
      (repair : StartTagRepair options expression start fault mended text) :
      Repair options expression (.element ⟨start, children, span⟩ :: nodes) fault
        (.element ⟨mended, children, span⟩ :: nodes) text
  | children {start children span nodes fault mended text} (sound : start.faults = [])
      (opened : start.selfClosing = false) (repair : Repair options expression children fault mended text) :
      Repair options expression (.element ⟨start, children, span⟩ :: nodes) fault
        (.element ⟨start, mended, span⟩ :: nodes) text
  | branch {element span nodes fault mended text}
      (repair : Repair options expression [.element element] fault [.element mended] text) :
      Repair options expression (.branch ⟨element, span⟩ :: nodes) fault (.branch ⟨mended, span⟩ :: nodes) text
  | chain {before element span behind place nodes fault mended text} (sound : branchesFaults before = [])
      (repair : Repair options expression [.element element] fault [.element mended] text) :
      Repair options expression (.chain (before ++ ⟨element, span⟩ :: behind) place :: nodes) fault
        (.chain (before ++ ⟨mended, span⟩ :: behind) place :: nodes) text
  | behind {node nodes fault mended text} (sound : node.faults = [])
      (repair : Repair options expression nodes fault mended text) :
      Repair options expression (node :: nodes) fault (node :: mended) text

/-! ## Repaired events -/

/-- The first event with a fault gives way to sound events that write `text`. -/
def EventRepair (options : Options) (fault : Fault) (text : String) (events mended : List Event) : Prop :=
  ∃ before event repaired behind, events = before ++ event :: behind ∧ mended = before ++ (repaired ++ behind) ∧
    event.fault = some fault ∧ eventFaults before = [] ∧ eventFaults repaired = [] ∧
    eventMarkup options repaired = text

section
variable {options : Options} {fault : Fault} {text : String} {events mended : List Event}

theorem EventRepair.singleton {piece repaired : Piece} (behind : List Event) (written : repaired.markup options = text) :
    EventRepair options fault text (⟨piece, some fault⟩ :: behind) (⟨repaired, none⟩ :: behind) := by
  refine ⟨[], ⟨piece, some fault⟩, [⟨repaired, none⟩], behind, rfl, rfl, rfl, rfl, rfl, ?_⟩
  rw [eventMarkup_singleton, written]

theorem EventRepair.append_left {before : List Event} (sound : eventFaults before = [])
    (repair : EventRepair options fault text events mended) :
    EventRepair options fault text (before ++ events) (before ++ mended) := by
  obtain ⟨first, event, repaired, behind, rfl, rfl, missing, earlier, whole, written⟩ := repair
  refine ⟨before ++ first, event, repaired, behind, ?_, ?_, missing, ?_, whole, written⟩
  · rw [List.append_assoc]
  · rw [List.append_assoc]
  · rw [eventFaults_append, sound, earlier, List.append_nil]

theorem EventRepair.append_right (behind : List Event) (repair : EventRepair options fault text events mended) :
    EventRepair options fault text (events ++ behind) (mended ++ behind) := by
  obtain ⟨before, event, repaired, last, rfl, rfl, missing, earlier, whole, written⟩ := repair
  refine ⟨before, event, repaired, last ++ behind, ?_, ?_, missing, earlier, whole, written⟩
  · rw [List.append_assoc, List.cons_append]
  · simp only [List.append_assoc]

theorem EventRepair.faults (repair : EventRepair options fault text events mended) :
    eventFaults events = fault :: eventFaults mended := by
  obtain ⟨before, event, repaired, behind, rfl, rfl, missing, earlier, whole, -⟩ := repair
  simp only [eventFaults_append, eventFaults_cons, earlier, whole, missing]
  rfl

theorem EventRepair.markup (repair : EventRepair options fault text events mended) :
    ∃ rest, eventMarkup options (faultless mended) = eventMarkup options (faultless events) ++ text ++ rest := by
  obtain ⟨before, event, repaired, behind, rfl, rfl, missing, earlier, whole, rfl⟩ := repair
  refine ⟨eventMarkup options (faultless behind), ?_⟩
  have stopped : faultless (event :: behind) = [] := by
    simp [faultless, missing]
  rw [faultless_append earlier, faultless_append earlier, faultless_append whole, stopped, List.append_nil,
    eventMarkup_append, eventMarkup_append, String.append_assoc]

end

/-! ## Repaired attributes -/

theorem requiredFault_of_visible {expression : Expression} (visible : expression.isBlank = false)
    (kind : Fault.Kind) (holder : Span) : requiredFault kind holder (some expression) = none := by
  simp [requiredFault_some, visible]

section
variable {options : Options} {expression : Expression} {fault : Fault} {text : String}

theorem AttributesRepair.events {inLoop : Bool} {attributes mended : List Attribute}
    (visible : expression.isBlank = false)
    (repair : AttributesRepair expression inLoop attributes fault mended text) :
    EventRepair options fault text ((remainingAttributes inLoop attributes).flatMap Attribute.events)
      ((remainingAttributes inLoop mended).flatMap Attribute.events) := by
  induction repair with
  | @here inLoop directive name fault rest named own missing =>
      have own' : inLoop = true → ¬(Attribute.directive (directive.withExpression expression)).BindsKey := by
        rw [withExpression_bindsKey_iff]
        exact own
      have whole : (directive.withExpression expression).fault = none := requiredFault_of_visible visible _ _
      rw [remainingAttributes_cons own, remainingAttributes_cons own', List.flatMap_cons, List.flatMap_cons,
        Attribute.events, Attribute.events, Directive.events, Directive.events, withExpression_boundName?, named, missing,
        whole]
      exact EventRepair.singleton _ rfl
  | behindKey key repair ih =>
      rw [remainingAttributes_cons_key key, remainingAttributes_cons_key key]
      exact ih
  | behind own sound repair ih =>
      rw [remainingAttributes_cons own, remainingAttributes_cons own, List.flatMap_cons, List.flatMap_cons]
      exact ih.append_left (by rw [← Attribute.faults_eq, sound])

theorem AttributesRepair.loopKey?_eq {attributes mended : List Attribute}
    (repair : AttributesRepair expression true attributes fault mended text) :
    loopKey? mended = loopKey? attributes := by
  -- no constructor repairs the first key binding of a loop
  have first : mended.find? (·.BindsKey) = attributes.find? (·.BindsKey) := by
    generalize looped : true = inLoop at repair
    induction repair with
    | @here inLoop directive name fault rest named own missing =>
        have other : ¬(Attribute.directive directive).BindsKey := own looped.symm
        simp [other, withExpression_bindsKey_iff]
    | behindKey key repair ih => simp [key]
    | behind own sound repair ih => simp only [List.find?_cons, ih looped]
  rw [loopKey?, loopKey?, first]

/-! ## Repaired trees write repaired events -/

theorem StartTag.events_eq (start : StartTag) :
    start.events = [⟨.verbatim ("<" ++ start.tag), none⟩] ++ start.conditionalEvents ++
      start.loopEvents ++ start.ownAttributes.flatMap Attribute.events := by
  simp [StartTag.events]

theorem Conditional.events_withCondition {conditional : Conditional} (visible : expression.isBlank = false)
    (tests : conditional.kind ≠ .otherwise) (missing : conditional.fault = some fault) :
    EventRepair options fault ((conditional.withCondition expression).markup options) conditional.events
      (conditional.withCondition expression).events := by
  have whole : (conditional.withCondition expression).fault = none := requiredFault_of_visible visible _ _
  obtain ⟨kind, condition, span⟩ := conditional
  cases kind with
  | when =>
      rw [Conditional.events, Conditional.events, missing, whole]
      exact EventRepair.singleton [] rfl
  | elseWhen =>
      rw [Conditional.events, Conditional.events, missing, whole]
      exact EventRepair.singleton [] rfl
  | otherwise => exact absurd rfl tests

theorem Loop.events_withSource {loop : Loop} (visible : expression.isBlank = false)
    (missing : loop.fault = some fault) (attributes : List Attribute) :
    EventRepair options fault (controlText options "for" ++ quotedText (mustacheText expression.text))
      (loop.events attributes) ((loop.withSource expression).events attributes) := by
  have whole : (loop.withSource expression).fault = none := requiredFault_of_visible visible _ _
  rw [Loop.events, Loop.events, missing, whole]
  exact EventRepair.singleton _ rfl

theorem StartTag.ownAttributes_withSource {start : StartTag} {loop : Loop} (found : start.loop = some loop)
    (other : Loop) : ({ start with loop := some other } : StartTag).ownAttributes = start.ownAttributes := by
  rw [StartTag.ownAttributes, StartTag.ownAttributes, found]
  rfl

theorem StartTag.loopEvents_withAttributes {start : StartTag} {attributes : List Attribute}
    (key : start.loop.isSome = true → loopKey? attributes = loopKey? start.attributes) :
    ({ start with attributes } : StartTag).loopEvents = start.loopEvents := by
  cases found : start.loop with
  | none => simp only [StartTag.loopEvents, found, Option.elim_none]
  | some loop =>
      rw [found] at key
      simp only [StartTag.loopEvents, found, Option.elim_some, Loop.events, key rfl]

theorem StartTagRepair.events {start mended : StartTag} (visible : expression.isBlank = false)
    (repair : StartTagRepair options expression start fault mended text) :
    EventRepair options fault text start.events mended.events := by
  rw [start.events_eq, mended.events_eq]
  cases repair with
  | @condition conditional _ found tests missing =>
      have first : EventRepair options _ _ _ _ := Conditional.events_withCondition visible tests missing
      have conditionals : start.conditionalEvents = conditional.events := by
        rw [StartTag.conditionalEvents, found]
        rfl
      rw [conditionals]
      exact ((first.append_left rfl).append_right _).append_right _
  | @source loop _ sound found missing =>
      have first : EventRepair options _ _ _ _ := Loop.events_withSource visible missing start.attributes
      have before : eventFaults ([⟨.verbatim ("<" ++ start.tag), none⟩] ++ start.conditionalEvents) = [] := by
        rw [eventFaults_append, ← start.conditionalFaults_eq, sound]
        rfl
      have loops : start.loopEvents = loop.events start.attributes := by
        rw [StartTag.loopEvents, found]
        rfl
      rw [loops, StartTag.ownAttributes_withSource found]
      exact (first.append_left before).append_right _
  | @binding attributes _ _ sound looped repair =>
      have first : EventRepair options _ _ _ _ := repair.events visible
      have before : eventFaults start.conditionalEvents = [] := by
        rw [← start.conditionalFaults_eq, sound]
      have after : eventFaults start.loopEvents = [] := by
        rw [← start.loopFaults_eq, looped]
        rfl
      have key : start.loop.isSome = true → loopKey? attributes = loopKey? start.attributes := by
        intro looped
        rw [looped] at repair
        exact repair.loopKey?_eq
      rw [StartTag.loopEvents_withAttributes key]
      refine first.append_left ?_
      rw [eventFaults_append, eventFaults_append, before, after]
      rfl

theorem StartTagRepair.frame {start mended : StartTag}
    (repair : StartTagRepair options expression start fault mended text) :
    mended.name = start.name ∧ mended.selfClosing = start.selfClosing := by
  cases repair <;> exact ⟨rfl, rfl⟩

theorem branchesEvents_append (before behind : List Branch) :
    branchesEvents (before ++ behind) = branchesEvents before ++ branchesEvents behind := by
  induction before with
  | nil => rfl
  | cons branch before ih =>
      obtain ⟨element, span⟩ := branch
      rw [List.cons_append, branchesEvents, branchesEvents, ih, List.append_assoc]

theorem nodesEvents_element (element : Element) (nodes : List Node) :
    nodesEvents (.element element :: nodes) = element.events ++ nodesEvents nodes := by
  rw [nodesEvents, Node.events]

theorem nodesEvents_singleton (element : Element) : nodesEvents [.element element] = element.events := by
  rw [nodesEvents_element, nodesEvents, List.append_nil]

theorem Repair.events {nodes mended : List Node} (visible : expression.isBlank = false)
    (repair : Repair options expression nodes fault mended text) :
    EventRepair options fault text (nodesEvents nodes) (nodesEvents mended) := by
  induction repair with
  | @removal parts span nodes =>
      rw [nodesEvents, Node.events]
      exact ⟨[], _, [], nodesEvents nodes, rfl, rfl, rfl, rfl, rfl, rfl⟩
  | interpolation missing =>
      rw [nodesEvents, Node.events, nodesEvents, Node.events, missing, requiredFault_of_visible visible]
      exact EventRepair.singleton _ rfl
  | start repair =>
      obtain ⟨name, closing⟩ := repair.frame
      rw [nodesEvents_element, nodesEvents_element, Element.events, Element.events, StartTag.closing, StartTag.closing,
        StartTag.tag, StartTag.tag, name, closing]
      exact ((repair.events visible).append_right _).append_right _
  | @children start _ _ _ _ _ _ sound opened _ ih =>
      have before : eventFaults start.events = [] := by
        rw [← start.faults_eq, sound]
      have opening : eventFaults [⟨.verbatim ">", none⟩] = [] := rfl
      rw [nodesEvents_element, nodesEvents_element, Element.events, Element.events, opened]
      exact (((ih.append_right _).append_left opening).append_left before).append_right _
  | branch repair ih =>
      rw [nodesEvents_singleton, nodesEvents_singleton] at ih
      rw [nodesEvents, nodesEvents, Node.events, Node.events]
      exact ih.append_right _
  | @chain before _ _ _ _ _ _ _ _ sound repair ih =>
      have earlier : eventFaults (branchesEvents before) = [] := by
        rw [← branchesFaults_eq, sound]
      rw [nodesEvents_singleton, nodesEvents_singleton] at ih
      rw [nodesEvents, nodesEvents, Node.events, Node.events, branchesEvents_append, branchesEvents_append,
        branchesEvents, branchesEvents]
      exact ((ih.append_right _).append_left earlier).append_right _
  | @behind node _ _ _ _ sound _ ih =>
      have earlier : eventFaults node.events = [] := by
        rw [← node.faults_eq, sound]
      rw [nodesEvents, nodesEvents]
      exact ih.append_left earlier

/-! ## Every reported fault has a repair -/

theorem head?_append_cases {α : Type} {before behind : List α} {first : α}
    (found : (before ++ behind).head? = some first) :
    before.head? = some first ∨ before = [] ∧ behind.head? = some first := by
  cases before with
  | nil => exact .inr ⟨rfl, found⟩
  | cons head tail => exact .inl found

theorem Conditional.faults_head? {conditional : Conditional} (reported : conditional.faults.head? = some fault) :
    conditional.kind ≠ .otherwise ∧ conditional.fault = some fault := by
  obtain ⟨kind, condition, span⟩ := conditional
  cases kind <;> simp_all [Conditional.faults, Option.head?_toList]

theorem Attribute.faults_head? {item : Attribute} (reported : item.faults.head? = some fault) :
    ∃ directive name, item = .directive directive ∧ directive.boundName? = some name ∧
      directive.fault = some fault := by
  cases item with
  | plain name value span => simp [Attribute.faults] at reported
  | directive inner =>
      rw [Attribute.faults, Option.head?_toList, Option.bind_eq_some_iff] at reported
      obtain ⟨name, named, missing⟩ := reported
      exact ⟨inner, name, rfl, named, missing⟩

theorem exists_attributesRepair (expression : Expression) (attributes : List Attribute) (inLoop : Bool)
    (reported : ((remainingAttributes inLoop attributes).flatMap Attribute.faults).head? = some fault) :
    ∃ mended text, AttributesRepair expression inLoop attributes fault mended text := by
  induction attributes generalizing inLoop with
  | nil => cases inLoop <;> cases reported
  | cons item rest ih =>
      -- behind the binding that the loop takes, the attributes are read as outside a loop
      by_cases key : inLoop = true ∧ item.BindsKey
      · obtain ⟨rfl, key⟩ := key
        rw [remainingAttributes_cons_key key] at reported
        obtain ⟨mended, text, repair⟩ := ih false reported
        exact ⟨_, _, .behindKey key repair⟩
      · have own : inLoop = true → ¬item.BindsKey := fun looped binds => key ⟨looped, binds⟩
        rw [remainingAttributes_cons own, List.flatMap_cons] at reported
        rcases head?_append_cases reported with first | ⟨sound, later⟩
        · obtain ⟨directive, name, rfl, named, missing⟩ := Attribute.faults_head? first
          exact ⟨_, _, .here named own missing⟩
        · obtain ⟨mended, text, repair⟩ := ih inLoop later
          exact ⟨_, _, .behind own sound repair⟩

theorem exists_startTagRepair (options : Options) (expression : Expression) (start : StartTag)
    (reported : start.faults.head? = some fault) :
    ∃ mended text, StartTagRepair options expression start fault mended text := by
  rw [StartTag.faults, List.append_assoc] at reported
  rcases head?_append_cases reported with first | ⟨sound, later⟩
  · cases found : start.conditional with
    | none => simp [found] at first
    | some conditional =>
        rw [found] at first
        obtain ⟨tests, missing⟩ := Conditional.faults_head? first
        exact ⟨_, _, .condition found tests missing⟩
  rcases head?_append_cases later with first | ⟨looped, last⟩
  · rw [Option.head?_toList] at first
    obtain ⟨loop, found, missing⟩ := Option.bind_eq_some_iff.1 first
    exact ⟨_, _, .source sound found missing⟩
  · obtain ⟨mended, text, repair⟩ := exists_attributesRepair expression _ _ last
    exact ⟨_, _, .binding sound (Option.toList_eq_nil_iff.1 looped) repair⟩

mutual

theorem exists_elementRepair (options : Options) (expression : Expression) : ∀ element : Element,
    element.faults.head? = some fault → ∃ mended text, ∀ nodes,
      Repair options expression (.element element :: nodes) fault (.element mended :: nodes) text
  | ⟨start, children, span⟩, reported => by
      rw [Element.faults] at reported
      rcases head?_append_cases reported with first | ⟨sound, later⟩
      · obtain ⟨mended, text, repair⟩ := exists_startTagRepair options expression start first
        exact ⟨_, _, fun _ => .start repair⟩
      · cases opened : start.selfClosing with
        | true => simp [opened] at later
        | false =>
            rw [opened] at later
            obtain ⟨mended, text, repair⟩ := exists_repair options expression children later
            exact ⟨_, _, fun _ => .children sound opened repair⟩

theorem exists_nodeRepair (options : Options) (expression : Expression) : ∀ node : Node,
    node.faults.head? = some fault → ∃ (mended : List Node) (text : String), ∀ nodes,
      Repair options expression (node :: nodes) fault (mended ++ nodes) text
  | .element inner, reported => by
      rw [Node.faults] at reported
      obtain ⟨mended, text, repair⟩ := exists_elementRepair options expression inner reported
      exact ⟨[.element mended], text, repair⟩
  | .text _ _, reported | .comment _ _, reported => by simp [Node.faults] at reported
  | .interpolation blank span, reported => by
      rw [Node.faults, Option.head?_toList] at reported
      exact ⟨[.interpolation expression span], _, fun _ => .interpolation reported⟩
  | .chain branches place, reported => by
      rw [Node.faults] at reported
      obtain ⟨before, element, span, behind, mended, text, rfl, sound, repair⟩ :=
        exists_branchRepair options expression branches reported
      exact ⟨[.chain (before ++ ⟨mended, span⟩ :: behind) place], text, fun _ => .chain sound repair⟩
  | .branch ⟨element, span⟩, reported => by
      rw [Node.faults] at reported
      obtain ⟨mended, text, repair⟩ := exists_elementRepair options expression element reported
      exact ⟨[.branch ⟨mended, span⟩], text, fun _ => .branch (repair [])⟩
  | .compound parts span, reported => by
      rw [Node.faults_compound, List.head?_cons] at reported
      cases reported
      exact ⟨[], "", fun _ => .removal⟩

theorem exists_repair (options : Options) (expression : Expression) : ∀ nodes : List Node,
    (nodesFaults nodes).head? = some fault → ∃ mended text, Repair options expression nodes fault mended text
  | [], reported => by cases reported
  | node :: nodes, reported => by
      rw [nodesFaults] at reported
      rcases head?_append_cases reported with first | ⟨sound, later⟩
      · obtain ⟨mended, text, repair⟩ := exists_nodeRepair options expression node first
        exact ⟨_, _, repair nodes⟩
      · obtain ⟨mended, text, repair⟩ := exists_repair options expression nodes later
        exact ⟨_, _, .behind sound repair⟩

theorem exists_branchRepair (options : Options) (expression : Expression) : ∀ branches : List Branch,
    (branchesFaults branches).head? = some fault → ∃ before element span behind mended text,
      branches = before ++ ⟨element, span⟩ :: behind ∧ branchesFaults before = [] ∧
        Repair options expression [.element element] fault [.element mended] text
  | [], reported => by cases reported
  | ⟨element, span⟩ :: branches, reported => by
      rw [branchesFaults] at reported
      rcases head?_append_cases reported with first | ⟨sound, later⟩
      · obtain ⟨mended, text, repair⟩ := exists_elementRepair options expression element first
        exact ⟨[], element, span, branches, mended, text, rfl, rfl, repair []⟩
      · obtain ⟨before, inner, place, behind, mended, text, rfl, earlier, repair⟩ :=
          exists_branchRepair options expression branches later
        refine ⟨⟨element, span⟩ :: before, inner, place, behind, mended, text, rfl, ?_, repair⟩
        rw [branchesFaults, sound, earlier, List.append_nil]

end

end

/-! ## The statement -/

theorem failure_leaves_preceding_markup (options : Options) (nodes : List Node) (fault : Fault) :
    ∃ written, ∀ buffer after, writeNodes nodes options buffer = .error fault after →
      after = buffer.push written ∧
      (∀ expression, ∃ mended text, Repair options expression nodes fault mended text) ∧
      ∀ expression mended text, expression.isBlank = false → Repair options expression nodes fault mended text →
        nodesFaults nodes = fault :: nodesFaults mended ∧
        ∃ rest, bufferLeft (writeNodes mended) options buffer = buffer.push (written ++ text ++ rest) := by
  refine ⟨eventMarkup options (faultless (nodesEvents nodes)), ?_⟩
  intro buffer after failed
  obtain ⟨reported, left⟩ := writeNodes_eq_error_iff.1 failed
  refine ⟨left, fun expression => exists_repair options expression nodes reported, ?_⟩
  intro expression mended text visible repair
  have events := repair.events visible
  constructor
  · rw [nodesFaults_eq, nodesFaults_eq]
    exact events.faults
  · obtain ⟨rest, continued⟩ := events.markup
    exact ⟨rest, by rw [bufferLeft_writeNodes, continued]⟩

/-- The key binding of a loop may miss its expression, but not the binding behind it. -/
def unboundTitle : List Node :=
  [.text "a" .nowhere,
    .element ⟨{ name := "view"
                loop := some { source := .simple "xs" false .nowhere }
                attributes :=
                  [.directive { kind := .bind, argument := some (.simple "key" true .nowhere) },
                    .directive { kind := .bind, argument := some (.simple "title" true .nowhere) }] },
      [], .nowhere⟩]

theorem failure_leaves_preceding_markup_unboundTitle :
    writeNodes unboundTitle {} .empty = .error (.of (.plain .missingBinding) .nowhere)
      (Buffer.empty.push "a<view wx:for=\"\x7b\x7bxs\x7d\x7d\"") ∧
    ∃ written, Buffer.empty.push "a<view wx:for=\"\x7b\x7bxs\x7d\x7d\"" = Buffer.empty.push written ∧
      ∃ mended text, Repair {} (.simple "t" false .nowhere) unboundTitle (.of (.plain .missingBinding) .nowhere)
        mended text ∧ nodesFaults unboundTitle = .of (.plain .missingBinding) .nowhere :: nodesFaults mended ∧
        ∃ rest, bufferLeft (writeNodes mended) {} .empty = Buffer.empty.push (written ++ text ++ rest) := by
  have failed : writeNodes unboundTitle {} .empty = .error (.of (.plain .missingBinding) .nowhere)
      (Buffer.empty.push "a<view wx:for=\"\x7b\x7bxs\x7d\x7d\"") := by
    rw [writeNodes_eq_error_iff]
    exact ⟨rfl, rfl⟩
  obtain ⟨written, holds⟩ := failure_leaves_preceding_markup {} unboundTitle (.of (.plain .missingBinding) .nowhere)
  obtain ⟨left, repairable, repaired⟩ := holds _ _ failed
  obtain ⟨mended, text, repair⟩ := repairable (.simple "t" false .nowhere)
  exact ⟨failed, written, left, mended, text, repair, repaired _ _ _ (by decide) repair⟩

end MiniMarkup
