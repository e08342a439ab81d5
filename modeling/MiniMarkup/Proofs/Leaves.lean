import Mathlib.Logic.Relation
import MiniMarkup.Proofs.KeySplits

/-!
# The leaves of expressions

An expression is written as its leaves one after another, however they are grouped. A regrouping takes steps such as
setting a nested expression's parts among those around it, or leaving out an empty part.

* `Expression.regrouped_iff`: such steps lead from one expression to another just if the two have the same leaves,
  the empty ones apart.
* `Expression.isBlank_iff`, `Requires.run_eq_error_iff`: an expression is turned down where one is required just if
  all its leaves are blank.
-/

namespace MiniMarkup

/-! ## Joined texts -/

theorem join_filter_nonempty (pieces : List String) : String.join (pieces.filter (· ≠ "")) = String.join pieces := by
  induction pieces with
  | nil => rfl
  | cons piece pieces ih =>
      by_cases empty : piece = ""
      · rw [List.filter_cons_of_neg (by simpa using empty), ih, String.join_cons, empty, String.empty_append]
      · rw [List.filter_cons_of_pos (by simpa using empty), String.join_cons, String.join_cons, ih]

theorem isBlank_join (pieces : List String) :
    Text.isBlank (String.join pieces) = true ↔ ∀ piece ∈ pieces, Text.isBlank piece = true := by
  induction pieces with
  | nil => simp
  | cons piece pieces ih => rw [String.join_cons, Text.isBlank_append, Bool.and_eq_true, ih, List.forall_mem_cons]

namespace Expression

/-! ## Texts of leaves -/

theorem appendTo_eq_text (out : String) (expression : Expression) :
    expression.appendTo out = out ++ expression.text := by
  rw [appendTo_eq, text_eq_join_leaves]

theorem partsLeaves_append (before behind : List Part) :
    partsLeaves (before ++ behind) = partsLeaves before ++ partsLeaves behind := by
  induction before with
  | nil => rfl
  | cons part before ih => rw [List.cons_append, partsLeaves, partsLeaves, ih, List.append_assoc]

theorem text_compound_append (before behind : List Part) (whole first second : Span) :
    (compound (before ++ behind) whole).text = (compound before first).text ++ (compound behind second).text := by
  simp only [text_eq_join_leaves, leaves, partsLeaves_append, String.join_append]

/-- The leaves that hold any text. -/
def heldLeaves (expression : Expression) : List String :=
  expression.leaves.filter (· ≠ "")

theorem text_eq_join_heldLeaves (expression : Expression) : expression.text = String.join expression.heldLeaves := by
  rw [text_eq_join_leaves, heldLeaves, join_filter_nonempty]

/-! ## Regrouping -/

mutual

/-- One step of regrouping, at any depth: the leaves stand in the same order as before, the empty ones apart. -/
inductive Regroups : Expression → Expression → Prop where
  | mark (content : String) (isStatic isStatic' : Bool) (span span' : Span) :
      Regroups (.simple content isStatic span) (.simple content isStatic' span')
  | place (parts : List Part) (span span' : Span) : Regroups (.compound parts span) (.compound parts span')
  | wrap (inner : Expression) (span : Span) : Regroups inner (.compound [.expression inner] span)
  | parts {before after : List Part} (step : RegroupsParts before after) (span : Span) :
      Regroups (.compound before span) (.compound after span)

inductive RegroupsParts : List Part → List Part → Prop where
  | inline (parts : List Part) (span : Span) (rest : List Part) :
      RegroupsParts (.expression (.compound parts span) :: rest) (parts ++ rest)
  | uncover (inner : Expression) (span : Span) (rest : List Part) :
      RegroupsParts (.interpolation inner span :: rest) (.expression inner :: rest)
  | drop (part : Part) (empty : ∀ leaf ∈ partLeaves part, leaf = "") (rest : List Part) :
      RegroupsParts (part :: rest) rest
  | simpleLiteral (content : String) (isStatic : Bool) (span : Span) (rest : List Part) :
      RegroupsParts (.expression (.simple content isStatic span) :: rest) (.literal content :: rest)
  | textLiteral (content : String) (span : Span) (rest : List Part) :
      RegroupsParts (.text content span :: rest) (.literal content :: rest)
  | within {before after : Expression} (step : Regroups before after) (rest : List Part) :
      RegroupsParts (.expression before :: rest) (.expression after :: rest)
  | covered {before after : Expression} (step : Regroups before after) (span : Span) (rest : List Part) :
      RegroupsParts (.interpolation before span :: rest) (.interpolation after span :: rest)
  | later (part : Part) {before after : List Part} (step : RegroupsParts before after) :
      RegroupsParts (part :: before) (part :: after)

end

/-- Steps, each of them taken in either direction, lead from one expression to the other. -/
def Regrouped : Expression → Expression → Prop :=
  Relation.EqvGen Regroups

def RegroupedParts : List Part → List Part → Prop :=
  Relation.EqvGen RegroupsParts

/-! ## Steps keep the leaves -/

mutual

theorem Regroups.heldLeaves_eq {before after : Expression} :
    Regroups before after → before.heldLeaves = after.heldLeaves
  | .mark _ _ _ _ _ => rfl
  | .place _ _ _ => rfl
  | .wrap inner _ => by rw [heldLeaves, heldLeaves, leaves, partsLeaves, partLeaves, partsLeaves, List.append_nil]
  | .parts step _ => step.heldLeaves_eq

theorem RegroupsParts.heldLeaves_eq {before after : List Part} : RegroupsParts before after →
    (partsLeaves before).filter (· ≠ "") = (partsLeaves after).filter (· ≠ "")
  | .inline _ _ _ => by rw [partsLeaves_append]; rfl
  | .uncover _ _ _ => rfl
  | .drop part empty rest => by
      have none : (partLeaves part).filter (· ≠ "") = [] :=
        List.filter_eq_nil_iff.2 fun leaf member => by simpa using empty leaf member
      rw [partsLeaves, List.filter_append, none, List.nil_append]
  | .simpleLiteral _ _ _ _ => rfl
  | .textLiteral _ _ _ => rfl
  | .within step rest | .covered step _ rest => by
      rw [partsLeaves, partsLeaves, List.filter_append, List.filter_append]
      exact congrArg (· ++ _) step.heldLeaves_eq
  | .later part step => by
      rw [partsLeaves, partsLeaves, List.filter_append, List.filter_append, step.heldLeaves_eq]

end

theorem Regrouped.heldLeaves_eq {before after : Expression} (regrouped : Regrouped before after) :
    before.heldLeaves = after.heldLeaves := by
  induction regrouped with
  | rel _ _ step => exact step.heldLeaves_eq
  | refl _ => rfl
  | symm _ _ _ ih => exact ih.symm
  | trans _ _ _ _ _ first second => exact first.trans second

/-! ## Every expression regroups to its leaves -/

theorem eqvGen_lift {α β : Type} {r : α → α → Prop} {s : β → β → Prop} (place : α → β)
    (steps : ∀ {before after}, r before after → s (place before) (place after)) {before after : α}
    (related : Relation.EqvGen r before after) : Relation.EqvGen s (place before) (place after) := by
  induction related with
  | rel _ _ step => exact .rel _ _ (steps step)
  | refl _ => exact .refl _
  | symm _ _ _ ih => exact .symm _ _ ih
  | trans _ _ _ _ _ first second => exact .trans _ _ _ first second

theorem RegroupedParts.later {before after : List Part} (part : Part) (regrouped : RegroupedParts before after) :
    RegroupedParts (part :: before) (part :: after) :=
  eqvGen_lift (part :: ·) (.later part) regrouped

theorem RegroupedParts.behind {before after : List Part} (parts : List Part)
    (regrouped : RegroupedParts before after) : RegroupedParts (parts ++ before) (parts ++ after) := by
  induction parts with
  | nil => exact regrouped
  | cons part parts ih => exact ih.later part

theorem RegroupedParts.compound {before after : List Part} (regrouped : RegroupedParts before after) (span : Span) :
    Regrouped (.compound before span) (.compound after span) :=
  eqvGen_lift (Expression.compound · span) (.parts · span) regrouped

-- Whatever stands behind a part is carried along as `rest`, so that only the parts before it have to be passed.
mutual

theorem regroupedParts_expression : ∀ (inner : Expression) (rest : List Part),
    RegroupedParts (.expression inner :: rest) (inner.leaves.map Part.literal ++ rest)
  | .simple content isStatic span, rest => .rel _ _ (.simpleLiteral content isStatic span rest)
  | .compound parts span, rest => .trans _ _ _ (.rel _ _ (.inline parts span rest)) (regroupedParts_parts parts rest)

theorem regroupedParts_part : ∀ (part : Part) (rest : List Part),
    RegroupedParts (part :: rest) ((partLeaves part).map Part.literal ++ rest)
  | .expression inner, rest => regroupedParts_expression inner rest
  | .interpolation inner span, rest =>
      .trans _ _ _ (.rel _ _ (.uncover inner span rest)) (regroupedParts_expression inner rest)
  | .text content span, rest => .rel _ _ (.textLiteral content span rest)
  | .literal _, _ => .refl _

theorem regroupedParts_parts : ∀ parts rest : List Part,
    RegroupedParts (parts ++ rest) ((partsLeaves parts).map Part.literal ++ rest)
  | [], _ => .refl _
  | part :: parts, rest => by
      rw [partsLeaves, List.map_append, List.append_assoc]
      exact .trans _ _ _ (regroupedParts_part part (parts ++ rest)) ((regroupedParts_parts parts rest).behind _)

end

theorem regroupedParts_filter (leaves : List String) :
    RegroupedParts (leaves.map Part.literal) ((leaves.filter (· ≠ "")).map Part.literal) := by
  induction leaves with
  | nil => exact .refl _
  | cons leaf leaves ih =>
      by_cases empty : leaf = ""
      · have dropped : RegroupsParts (.literal leaf :: leaves.map Part.literal) (leaves.map Part.literal) :=
          .drop _ (by simpa [partLeaves] using empty) _
        rw [List.filter_cons_of_neg (by simpa using empty)]
        exact .trans _ _ _ (.rel _ _ dropped) ih
      · rw [List.filter_cons_of_pos (by simpa using empty)]
        exact ih.later _

theorem regrouped_heldLeaves (expression : Expression) :
    Regrouped expression (.compound (expression.heldLeaves.map Part.literal) .nowhere) := by
  have parts := regroupedParts_expression expression []
  rw [List.append_nil] at parts
  have held : RegroupedParts [.expression expression] (expression.heldLeaves.map Part.literal) :=
    .trans _ _ _ parts (regroupedParts_filter expression.leaves)
  exact .trans _ _ _ (.rel _ _ (.wrap expression .nowhere)) (held.compound .nowhere)

theorem regrouped_iff {expression other : Expression} :
    Regrouped expression other ↔ expression.heldLeaves = other.heldLeaves := by
  constructor
  · exact Regrouped.heldLeaves_eq
  · intro same
    have meets := expression.regrouped_heldLeaves
    rw [same] at meets
    exact .trans _ _ _ meets (.symm _ _ other.regrouped_heldLeaves)

theorem Regrouped.text_eq {expression other : Expression} (regrouped : Regrouped expression other) :
    expression.text = other.text := by
  rw [text_eq_join_heldLeaves, regrouped.heldLeaves_eq, text_eq_join_heldLeaves]

/-! ## Blank leaves -/

def AllBlank (expression : Expression) : Prop :=
  ∀ leaf ∈ expression.leaves, ∀ c ∈ leaf.toList, Text.isWhiteSpace c = true

theorem isBlank_iff {expression : Expression} : expression.isBlank = true ↔ expression.AllBlank := by
  rw [isBlank, text_eq_join_leaves, isBlank_join]
  simp only [Text.isBlank_eq_true_iff, AllBlank]

end Expression

/-! ## Required expressions -/

theorem requiredText_eq_error_iff {kind : Fault.Kind} {holder : Span} {expression : Expression} {fault : Fault} :
    requiredText kind holder (some expression) = .error fault ↔
      expression.AllBlank ∧ fault = .of (.plain kind) (expression.span.orElse holder) := by
  rw [requiredText_some, ← Expression.isBlank_iff]
  cases expression.isBlank <;> simp [eq_comm]

theorem requiredText_eq_ok_iff {kind : Fault.Kind} {holder : Span} {expression : Expression} {text : String} :
    requiredText kind holder (some expression) = .ok text ↔ ¬expression.AllBlank ∧ text = expression.text := by
  rw [requiredText_some, ← Expression.isBlank_iff]
  cases expression.isBlank <;> simp [eq_comm]

/-- A writer that cannot do without an expression, with the kind of fault and the holder that it reports then. -/
inductive Requires (expression : Expression) : Fault.Kind → Span → ∀ {α : Type}, Writer α → Prop where
  | interpolation (span : Span) :
      Requires expression .missingInterpolation span (writeInterpolation expression span)
  | conditional {conditional : Conditional} (tests : conditional.kind ≠ .otherwise)
      (given : conditional.condition = some expression) :
      Requires expression .missingCondition conditional.span conditional.write
  | loop (loop : Loop) (source : loop.source = expression) (attributes : List Attribute) :
      Requires expression .missingLoopSource loop.span (loop.write attributes)
  | binding {directive : Directive} (named : directive.boundName? ≠ none)
      (given : directive.expression = some expression) :
      Requires expression .missingBinding directive.span directive.write

/-- A writer that writes nothing unless it gets past a check. -/
structure Checks {α : Type} (fault : Option Fault) (writer : Writer α) : Prop where
  refuses : ∀ {found}, fault = some found → ∀ options buffer, writer options buffer = .error found buffer
  passes : fault = none → ∀ options buffer, ∃ value after, writer options buffer = .ok value after

theorem checks_performAll (piece : Piece) (fault : Option Fault) : Checks fault (performAll [⟨piece, fault⟩]) := by
  rw [performAll_singleton]
  constructor
  · rintro found rfl options buffer
    rw [run_perform]
  · rintro rfl options buffer
    rw [run_perform]
    exact ⟨_, _, rfl⟩

theorem Loop.checks (loop : Loop) (attributes : List Attribute) : Checks loop.fault (loop.write attributes) := by
  constructor
  · intro found fault options buffer
    rw [loop.run_write, fault]
  · intro fault options buffer
    rw [loop.run_write, fault]
    exact ⟨_, _, rfl⟩

section
variable {expression : Expression} {kind : Fault.Kind} {holder : Span} {α : Type} {writer : Writer α}

theorem Requires.checks (required : Requires expression kind holder writer) :
    Checks (requiredFault kind holder (some expression)) writer := by
  cases required with
  | interpolation =>
      have performs := (Node.interpolation expression holder).write_performs
      rw [Node.write] at performs
      rw [performs]
      exact checks_performAll _ _
  | @conditional conditional tests given =>
      obtain ⟨kind, condition, span⟩ := conditional
      subst given
      rw [Conditional.write_performs]
      cases kind with
      | when | elseWhen => exact checks_performAll _ _
      | otherwise => exact (tests rfl).elim
  | loop loop source attributes =>
      subst source
      exact loop.checks attributes
  | @binding directive named given =>
      obtain ⟨name, named⟩ := Option.ne_none_iff_exists'.1 named
      rw [directive.write_performs, Directive.events, named, ← given]
      exact checks_performAll _ _

theorem Requires.run_eq_error_iff (required : Requires expression kind holder writer) {options : Options}
    {buffer after : Buffer} {fault : Fault} : writer options buffer = .error fault after ↔
      expression.AllBlank ∧ fault = .of (.plain kind) (expression.span.orElse holder) ∧ after = buffer := by
  have checks := required.checks
  rw [requiredFault_some] at checks
  rw [← Expression.isBlank_iff]
  cases blank : expression.isBlank with
  | true =>
      rw [checks.refuses (if_pos blank)]
      simp [eq_comm]
  | false =>
      obtain ⟨value, done, run⟩ := checks.passes (if_neg (by simp [blank])) options buffer
      simp [run]

end

/-! ## The statement -/

theorem leaves_determine_text :
    (∀ (expression : Expression) out, expression.text = String.join expression.leaves ∧
      expression.appendTo out = out ++ expression.text) ∧
    (∀ expression other : Expression, expression.leaves = other.leaves → expression.text = other.text) ∧
    (∀ expression other : Expression, expression.Regrouped other ↔ expression.heldLeaves = other.heldLeaves) ∧
    (∀ expression other : Expression, expression.Regrouped other → expression.text = other.text) ∧
    (∀ before behind whole first second, (Expression.compound (before ++ behind) whole).text =
      (Expression.compound before first).text ++ (Expression.compound behind second).text) ∧
    (∀ kind holder expression fault, requiredText kind holder (some expression) = .error fault ↔
      expression.AllBlank ∧ fault = .of (.plain kind) (expression.span.orElse holder)) ∧
    (∀ kind holder expression text, requiredText kind holder (some expression) = .ok text ↔
      ¬expression.AllBlank ∧ text = expression.text) ∧
    ∀ (expression : Expression) kind holder (α : Type) (writer : Writer α), Requires expression kind holder writer →
      ∀ options buffer fault after, writer options buffer = .error fault after ↔
        expression.AllBlank ∧ fault = .of (.plain kind) (expression.span.orElse holder) ∧ after = buffer := by
  refine ⟨fun expression out => ⟨expression.text_eq_join_leaves, expression.appendTo_eq_text out⟩, ?_,
    fun _ _ => Expression.regrouped_iff, fun _ _ => Expression.Regrouped.text_eq, Expression.text_compound_append,
    fun _ _ _ _ => requiredText_eq_error_iff, fun _ _ _ _ => requiredText_eq_ok_iff,
    fun _ _ _ _ _ required _ _ _ _ => required.run_eq_error_iff⟩
  intro expression other same
  rw [expression.text_eq_join_leaves, same, other.text_eq_join_leaves]

/-- A path whose second segment stands in an interpolation, behind an empty piece. -/
def piecedPath : Expression :=
  .compound [.text "row." .nowhere, .interpolation (.compound [.literal "",
    .expression (.simple "id" true .nowhere)] .nowhere) .nowhere] .nowhere

def plainPath : Expression :=
  .compound [.literal "row.", .text "" .nowhere, .expression (.simple "id" false .nowhere)] .nowhere

def blankPieces : Expression :=
  .compound [.text " " .nowhere, .interpolation (.simple "\u00a0" false .nowhere) .nowhere] .nowhere

theorem leaves_determine_text_piecedPath :
    piecedPath.leaves = plainPath.leaves ∧ piecedPath.text = plainPath.text ∧
    piecedPath.Regrouped (.compound [.literal "row.", .literal "id"] .nowhere) ∧
    piecedPath.text = (Expression.compound [.literal "row.", .literal "id"] .nowhere).text ∧
    blankPieces.AllBlank ∧
    Requires blankPieces .missingLoopSource .nowhere (Loop.write { source := blankPieces } []) ∧
    Loop.write { source := blankPieces } [] {} .empty = .error (.of (.plain .missingLoopSource) .nowhere) .empty := by
  obtain ⟨-, same, regroups, regrouped, -, -, -, refused⟩ := leaves_determine_text
  have leaves : piecedPath.leaves = plainPath.leaves := rfl
  have path : piecedPath.Regrouped (.compound [.literal "row.", .literal "id"] .nowhere) := (regroups _ _).2 rfl
  have blank : blankPieces.AllBlank := Expression.isBlank_iff.1 rfl
  have required : Requires blankPieces .missingLoopSource .nowhere (Loop.write { source := blankPieces } []) :=
    .loop { source := blankPieces } rfl []
  exact ⟨leaves, same _ _ leaves, path, regrouped _ _ path, blank, required,
    (refused _ _ _ _ _ required {} .empty _ _).2 ⟨blank, rfl, rfl⟩⟩

end MiniMarkup
