import MiniMarkup.Proofs.KeySplits
import MiniMarkup.Proofs.Outcome

/-!
# Where the key binding of a loop stands

Of its element's attributes a loop sees the first binding of `key` and, apart from it, all the others. Where among
these the binding stands shows in no event (`StartTag.events_binding`), and what it binds decides no fault
(`StartTag.faults_binding`). Outside a loop it is an attribute like any other.
-/

namespace MiniMarkup

/-- A start tag whose attributes are `before`, a binding and `behind`. -/
def StartTag.binding (start : StartTag) (before : List Attribute) (bound : Directive) (behind : List Attribute) :
    StartTag :=
  { start with attributes := before ++ .directive bound :: behind }

def StartTag.unlooped (start : StartTag) : StartTag :=
  { start with loop := none }

def Directive.rebound (directive : Directive) (expression : Option Expression) : Directive :=
  { directive with expression }

theorem Attribute.BindsKey.rebound {bound : Directive} (key : (Attribute.directive bound).BindsKey)
    (expression : Option Expression) : (Attribute.directive (bound.rebound expression)).BindsKey :=
  have same : (bound.rebound expression).boundName? = bound.boundName? := rfl
  (Directive.bindsKey_congr same).2 key

/-! ## Loops -/

section
variable {start : StartTag} {before behind : List Attribute} {bound : Directive}

theorem StartTag.ownAttributes_binding {loop : Loop} (looped : start.loop = some loop)
    (own : ∀ item ∈ before, ¬item.BindsKey) (key : (Attribute.directive bound).BindsKey) :
    (start.binding before bound behind).ownAttributes = before ++ behind := by
  rw [StartTag.ownAttributes, StartTag.binding, looped]
  exact (rest_ofAttributes _).symm.trans (congrArg KeySplit.rest (KeySplit.ofAttributes_of_first own key))

theorem StartTag.events_binding {loop : Loop} (looped : start.loop = some loop)
    (own : ∀ item ∈ before, ¬item.BindsKey) (key : (Attribute.directive bound).BindsKey) :
    (start.binding before bound behind).events = ⟨.verbatim ("<" ++ start.tag), none⟩ ::
      (start.conditionalEvents ++
        (⟨.control "for" (quotedText (mustacheText loop.source.text)), loop.fault⟩ ::
          (controlEvents "for-item" loop.item ++ controlEvents "for-index" loop.index ++
            controlEvents "key" (bound.expression.bind fun expression => loopKey expression.text))) ++
        (before ++ behind).flatMap Attribute.events) := by
  have loopEvents : (start.binding before bound behind).loopEvents =
      loop.events (before ++ .directive bound :: behind) := by
    rw [StartTag.loopEvents, StartTag.binding, looped, Option.elim_some]
  rw [StartTag.events, StartTag.ownAttributes_binding looped own key, loopEvents, Loop.events, loopKey?_of_first own key]
  rfl

theorem StartTag.faults_binding {loop : Loop} (looped : start.loop = some loop)
    (own : ∀ item ∈ before, ¬item.BindsKey) (key : (Attribute.directive bound).BindsKey) :
    (start.binding before bound behind).faults = start.conditional.elim [] Conditional.faults ++
      (start.loop.bind Loop.fault).toList ++ (before ++ behind).flatMap Attribute.faults := by
  rw [StartTag.faults, StartTag.ownAttributes_binding looped own key]
  rfl

end

/-! ## Elements outside loops -/

theorem requiredFault_of_blank {expression : Option Expression} (blank : ∀ text ∈ expression, text.isBlank = true)
    (kind : Fault.Kind) (holder : Span) : ∃ fault, requiredFault kind holder expression = some fault := by
  cases expression with
  | none => exact ⟨_, rfl⟩
  | some expression => exact ⟨_, (requiredFault_some kind holder expression).trans (if_pos (blank expression rfl))⟩

theorem StartTag.faults_unlooped_ne_nil (start : StartTag) (before behind : List Attribute) {bound : Directive}
    (key : (Attribute.directive bound).BindsKey) (blank : ∀ text ∈ bound.expression, text.isBlank = true) :
    (start.unlooped.binding before bound behind).faults ≠ [] := by
  obtain ⟨fault, missing⟩ := requiredFault_of_blank blank .missingBinding bound.span
  have reported : fault ∈ (Attribute.directive bound).faults := by
    rw [Attribute.faults, Directive.bindsKey_iff.1 key, Option.bind_some, Directive.fault, missing]
    exact List.mem_singleton_self fault
  have member : fault ∈ (start.unlooped.binding before bound behind).ownAttributes.flatMap Attribute.faults :=
    List.mem_flatMap.2 ⟨_, List.mem_append_right before List.mem_cons_self, reported⟩
  exact List.ne_nil_of_mem (List.mem_append_right _ member)

/-! ## Answers -/

/-- What a run answers, whatever it leaves in the buffer. -/
def answer (writer : Writer Unit) (options : Options) (buffer : Buffer) : Except Fault Unit :=
  match writer options buffer with
  | .ok _ _ => .ok ()
  | .error fault _ => .error fault

theorem answer_write (element : Element) (options : Options) (buffer : Buffer) :
    answer element.write options buffer = match element.faults.head? with
      | none => .ok ()
      | some fault => .error fault := by
  rw [answer, element.run_write]
  cases element.faults.head? <;> rfl

/-! ## The statement -/

theorem key_place_leaves_element (start : StartTag) (loop : Loop) (looped : start.loop = some loop)
    (children : List Node) (span : Span) (bound : Directive) (key : (Attribute.directive bound).BindsKey)
    (before behind front back : List Attribute) (own : ∀ item ∈ before, ¬item.BindsKey)
    (own' : ∀ item ∈ front, ¬item.BindsKey) (others : front ++ back = before ++ behind)
    (options : Options) (buffer : Buffer) :
    Element.write ⟨start.binding front bound back, children, span⟩ options buffer =
      Element.write ⟨start.binding before bound behind, children, span⟩ options buffer ∧
    (∀ expression : Option Expression,
      answer (Element.write ⟨start.binding before (bound.rebound expression) behind, children, span⟩) options buffer =
        answer (Element.write ⟨start.binding before bound behind, children, span⟩) options buffer) ∧
    ∀ expression : Option Expression, (∀ text ∈ expression, text.isBlank = true) →
      ∃ fault, answer (Element.write
        ⟨start.unlooped.binding before (bound.rebound expression) behind, children, span⟩) options buffer =
          .error fault := by
  refine ⟨?_, ?_, ?_⟩
  · have events : Element.events ⟨start.binding front bound back, children, span⟩ =
        Element.events ⟨start.binding before bound behind, children, span⟩ := by
      rw [Element.events, Element.events, StartTag.events_binding looped own' key,
        StartTag.events_binding looped own key, others]
      rfl
    rw [Element.write_performs, Element.write_performs, events]
  · intro expression
    have faults : Element.faults ⟨start.binding before (bound.rebound expression) behind, children, span⟩ =
        Element.faults ⟨start.binding before bound behind, children, span⟩ := by
      rw [Element.faults, Element.faults, StartTag.faults_binding looped own (key.rebound expression),
        StartTag.faults_binding looped own key]
      rfl
    rw [answer_write, answer_write, faults]
  · intro expression blank
    have missing : (start.unlooped.binding before (bound.rebound expression) behind).faults ≠ [] :=
      StartTag.faults_unlooped_ne_nil start before behind (key.rebound expression) blank
    obtain ⟨fault, faults, reported⟩ := List.exists_cons_of_ne_nil missing
    refine ⟨fault, ?_⟩
    rw [answer_write, Element.faults, reported]
    rfl

def rowsTag : StartTag :=
  { name := "row", selfClosing := true, loop := some { source := .simple "rows" false .nowhere } }

def rowKey (expression : Option Expression) : Directive :=
  { kind := .bind, argument := some (.simple "key" true .nowhere), expression }

/-- An attribute that only resembles a key, and a second binding of `key`, which stays an attribute of the row. -/
def rowAttributes : List Attribute :=
  [.plain "key" (some "\"r\"") .nowhere, .directive (rowKey (some (.simple "other" false .nowhere)))]

theorem key_place_leaves_element_rows :
    let bound := rowKey (some (.simple "row.id" false .nowhere))
    rowsTag.loop = some { source := .simple "rows" false .nowhere } ∧ (Attribute.directive bound).BindsKey ∧
    (∀ item ∈ rowAttributes.take 1, ¬item.BindsKey) ∧
    Element.write ⟨rowsTag.binding [] bound rowAttributes, [], .nowhere⟩ {} .empty =
      Element.write ⟨rowsTag.binding (rowAttributes.take 1) bound (rowAttributes.drop 1), [], .nowhere⟩ {} .empty ∧
    Element.write ⟨rowsTag.binding [] bound rowAttributes, [], .nowhere⟩ {} .empty =
      .ok () (Buffer.empty.push "<row wx:for=\"\x7b\x7brows\x7d\x7d\" wx:key=\"id\" key=\"r\" key=\"\x7b\x7bother\x7d\x7d\"/>") ∧
    answer (Element.write ⟨rowsTag.binding (rowAttributes.take 1) (bound.rebound none) (rowAttributes.drop 1), [], .nowhere⟩)
      {} .empty = .ok () ∧
    ∃ fault, answer (Element.write ⟨rowsTag.unlooped.binding (rowAttributes.take 1) (bound.rebound none)
      (rowAttributes.drop 1), [], .nowhere⟩) {} .empty = .error fault := by
  intro bound
  have key : (Attribute.directive bound).BindsKey := ⟨_, _, _, rfl, rfl, rfl⟩
  have own : ∀ item ∈ rowAttributes.take 1, ¬item.BindsKey := by decide
  have written : Element.write ⟨rowsTag.binding [] bound rowAttributes, [], .nowhere⟩ {} .empty =
      .ok () (Buffer.empty.push "<row wx:for=\"\x7b\x7brows\x7d\x7d\" wx:key=\"id\" key=\"r\" key=\"\x7b\x7bother\x7d\x7d\"/>") :=
    Element.write_eq_ok_iff.2 ⟨rfl, congrArg Buffer.empty.push (by decide)⟩
  obtain ⟨moved, rebound, unlooped⟩ := key_place_leaves_element rowsTag _ rfl [] .nowhere bound key
    (rowAttributes.take 1) (rowAttributes.drop 1) [] rowAttributes own (List.forall_mem_nil _) rfl {} .empty
  refine ⟨rfl, key, own, moved, written, ?_, unlooped none nofun⟩
  rw [rebound none, answer, ← moved, written]

end MiniMarkup
