import MiniMarkup.Proofs.Outcome
import MiniMarkup.Proofs.Scanner
import MiniMarkup.Proofs.Session

/-!
# What faults report

The message of a fault can be read back (`readReport?_message`): no message of a cause has a colon, so that the first
colon stands between a line and a column, and before the line stands the message of the cause. All faults that a run
ends in are reports of a cause at a span (`Step.reported`).
-/

namespace MiniMarkup

namespace Fault

/-- A line and a column, as a message ends in them. -/
def placeText (line column : Nat) : String :=
  " (" ++ line.repr ++ ":" ++ column.repr ++ ")"

/-- The line and the column where a fault is reported. -/
def reportedPlace (fault : Fault) : Option (Nat × Nat) :=
  fault.span.map fun span => (span.start.line.toNat, span.start.column.toNat)

/-! ## Causes -/

def Cause.all : List Cause :=
  Kind.all.map .plain ++ Node.Kind.all.map .node

def Cause.ofMessage? (text : String) : Option Cause :=
  Cause.all.find? fun cause => cause.message = text

theorem Cause.ofMessage?_message (cause : Cause) : ofMessage? cause.message = some cause := by
  cases cause with
  | plain kind => cases kind <;> rfl
  | node kind => cases kind <;> rfl

theorem Kind.colon_notMem (kind : Kind) : ':' ∉ kind.message.toList := by
  cases kind <;> decide +kernel

theorem colon_notMem_name (kind : Node.Kind) : ':' ∉ kind.name.toList := by
  cases kind <;> decide +kernel

theorem Cause.colon_notMem (cause : Cause) : ':' ∉ cause.message.toList := by
  cases cause with
  | plain kind => exact kind.colon_notMem
  | node kind =>
      simp only [message, String.toList_append, List.mem_append, not_or]
      exact ⟨⟨⟨Kind.colon_notMem _, by decide⟩, colon_notMem_name kind⟩, by decide⟩

/-! ## Places -/

theorem isDigit_of_mem_repr {number : Nat} {c : Char} (member : c ∈ number.repr.toList) : c.isDigit = true := by
  rw [Nat.toList_repr] at member
  exact Nat.isDigit_of_mem_toDigits (by decide) (by decide) member

theorem notMem_repr {c : Char} (other : c.isDigit = false) (number : Nat) : c ∉ number.repr.toList := by
  intro member
  rw [isDigit_of_mem_repr member] at other
  cases other

def readNumber (digits : List Char) : Nat :=
  Nat.ofDigitChars 10 digits 0

theorem readNumber_repr (number : Nat) : readNumber number.repr.toList = number := by
  rw [readNumber, Nat.toList_repr]
  exact Nat.ofDigitChars_toDigits (by decide) (by decide)

theorem toList_placeText (line column : Nat) :
    (placeText line column).toList = ' ' :: '(' :: (line.repr.toList ++ (':' :: (column.repr.toList ++ [')']))) := by
  simp [placeText]

theorem message_eq_place (fault : Fault) : fault.message =
    fault.cause.message ++ (fault.reportedPlace.elim "" fun place => placeText place.1 place.2) := by
  rw [message, reportedPlace]
  cases fault.span <;> rfl

/-! ## Reading messages -/

/-- What a message says: a cause, and a line and a column where it ends in them. -/
def readReport? (text : String) : Option (Cause × Option (Nat × Nat)) :=
  match cutAt [':'] text.toList with
  | none => (Cause.ofMessage? text).map (·, none)
  | some (before, behind) =>
      let digits := (before.reverse.takeWhile Char.isDigit).reverse
      match before.reverse.dropWhile Char.isDigit with
      | '(' :: ' ' :: cause =>
          (Cause.ofMessage? (.ofList cause.reverse)).map
            (·, some (readNumber digits, readNumber (behind.takeWhile Char.isDigit)))
      | _ => none

theorem cutAt_eq_none {c : Char} {chars : List Char} (absent : c ∉ chars) : cutAt [c] chars = none := by
  induction chars with
  | nil => rfl
  | cons first rest ih =>
      rw [List.mem_cons, not_or] at absent
      have later : List.isPrefixOf [c] (first :: rest) = false := by
        rw [List.isPrefixOf, beq_false_of_ne absent.1, Bool.false_and]
      rw [cutAt, later, ih absent.2]
      rfl

theorem span_digits {digits : List Char} (all : ∀ c ∈ digits, c.isDigit = true) (stop : Char)
    (other : stop.isDigit = false) (behind : List Char) :
    (digits ++ stop :: behind).takeWhile Char.isDigit = digits ∧
      (digits ++ stop :: behind).dropWhile Char.isDigit = stop :: behind := by
  rw [List.takeWhile_append_of_pos all, List.dropWhile_append_of_pos all]
  simp [other]

theorem readReport?_message (fault : Fault) : readReport? fault.message = some (fault.cause, fault.reportedPlace) := by
  rw [message_eq_place]
  cases fault.reportedPlace with
  | none =>
      rw [Option.elim_none, String.append_empty, readReport?, cutAt_eq_none fault.cause.colon_notMem]
      simp only [Cause.ofMessage?_message, Option.map_some]
  | some place =>
      obtain ⟨line, column⟩ := place
      have split : (fault.cause.message ++ placeText line column).toList =
          (fault.cause.message.toList ++ ' ' :: '(' :: line.repr.toList) ++ (':' :: [] ++ (column.repr.toList ++ [')'])) := by
        simp [toList_placeText]
      have plain : ':' ∉ fault.cause.message.toList ++ ' ' :: '(' :: line.repr.toList := by
        simp only [List.mem_append, List.mem_cons, not_or]
        exact ⟨fault.cause.colon_notMem, by decide, by decide, notMem_repr (by decide) line⟩
      have backwards : (fault.cause.message.toList ++ ' ' :: '(' :: line.repr.toList).reverse =
          line.repr.toList.reverse ++ '(' :: ' ' :: fault.cause.message.toList.reverse := by
        simp
      have lineDigits : ∀ c ∈ line.repr.toList.reverse, c.isDigit = true :=
        fun c member => isDigit_of_mem_repr (List.mem_reverse.1 member)
      have columnDigits : ∀ c ∈ column.repr.toList, c.isDigit = true := fun c => isDigit_of_mem_repr
      obtain ⟨lineRead, causeLeft⟩ := span_digits lineDigits '(' (by decide) (' ' :: fault.cause.message.toList.reverse)
      obtain ⟨columnRead, -⟩ := span_digits columnDigits ')' (by decide) []
      rw [Option.elim_some, readReport?, split, cutAt_append_of_notMem plain]
      simp only [backwards, lineRead, causeLeft, columnRead, List.reverse_reverse, String.ofList_toList, readNumber_repr,
        Cause.ofMessage?_message, Option.map_some]

theorem message_eq_iff {fault other : Fault} :
    fault.message = other.message ↔ fault.cause = other.cause ∧ fault.reportedPlace = other.reportedPlace := by
  constructor
  · intro same
    have read := congrArg readReport? same
    rw [readReport?_message, readReport?_message, Option.some_inj, Prod.mk.injEq] at read
    exact read
  · rintro ⟨cause, place⟩
    rw [message_eq_place, message_eq_place, cause, place]

theorem ends_iff (fault : Fault) :
    (∃ text line column, fault.message = text ++ placeText line column) ↔ fault.span ≠ none := by
  constructor
  · rintro ⟨text, line, column, ended⟩ unplaced
    have bare : fault.message = fault.cause.message := by
      rw [message, unplaced, place, String.append_empty]
    have colon : ':' ∈ fault.cause.message.toList := by
      rw [← bare, ended, String.toList_append, toList_placeText]
      simp
    exact fault.cause.colon_notMem colon
  · intro placed
    obtain ⟨span, found⟩ := Option.ne_none_iff_exists'.1 placed
    exact ⟨fault.cause.message, span.start.line.toNat, span.start.column.toNat, by rw [message, found]; rfl⟩

/-! ## Reports -/

theorem span_of_eq_none_iff {cause : Cause} {span : Span} : (Fault.of cause span).span = none ↔ span = .nowhere := by
  simp [Fault.of]

theorem span_of_ne_none {cause : Cause} {span : Span} (placed : (Fault.of cause span).span ≠ none) :
    (Fault.of cause span).span = some span := by
  rw [Fault.of_known cause (mt span_of_eq_none_iff.2 placed)]

end Fault

theorem Span.eq_nowhere_iff {span : Span} : span = .nowhere ↔ span.start.offset = 0 ∧ span.start.line = 1 ∧
    span.start.column = 1 ∧ span.stop.offset = 0 ∧ span.stop.line = 1 ∧ span.stop.column = 1 ∧ span.source = "" := by
  obtain ⟨⟨startOffset, startLine, startColumn⟩, ⟨stopOffset, stopLine, stopColumn⟩, source⟩ := span
  simp [Span.nowhere, Position.origin, and_assoc]

/-! ## Faults of runs -/

/-- A fault that reports a cause at a span. -/
def Fault.Reported (fault : Fault) : Prop :=
  ∃ cause span, fault = .of cause span

theorem requiredFault_reported {kind : Fault.Kind} {holder : Span} {expression : Option Expression} :
    ∀ fault ∈ requiredFault kind holder expression, fault.Reported := by
  intro fault missing
  cases expression with
  | none =>
      rw [requiredFault_none] at missing
      exact ⟨_, _, (Option.some.inj missing).symm⟩
  | some expression =>
      rw [requiredFault_some] at missing
      obtain ⟨-, reported⟩ := (Option.ite_none_right_eq_some).1 missing
      exact ⟨_, _, (Option.some.inj reported).symm⟩

theorem Conditional.faults_reported (conditional : Conditional) : ∀ fault ∈ conditional.faults, fault.Reported := by
  obtain ⟨kind, condition, span⟩ := conditional
  cases kind with
  | when | elseWhen => exact fun fault member => requiredFault_reported fault (Option.mem_toList.1 member)
  | otherwise => exact List.forall_mem_nil _

theorem Attribute.faults_reported (item : Attribute) : ∀ fault ∈ item.faults, fault.Reported := by
  cases item with
  | plain name value span => exact List.forall_mem_nil _
  | directive inner =>
      intro fault member
      rw [Attribute.faults] at member
      obtain ⟨-, -, missing⟩ := Option.bind_eq_some_iff.1 (Option.mem_toList.1 member)
      exact requiredFault_reported fault missing

theorem StartTag.faults_reported (start : StartTag) : ∀ fault ∈ start.faults, fault.Reported := by
  intro fault member
  rw [StartTag.faults, List.mem_append, List.mem_append] at member
  rcases member with (condition | source) | own
  · cases found : start.conditional with
    | none => simp [found] at condition
    | some conditional =>
        rw [found] at condition
        exact conditional.faults_reported fault condition
  · obtain ⟨loop, -, missing⟩ := Option.bind_eq_some_iff.1 (Option.mem_toList.1 source)
    exact requiredFault_reported fault missing
  · obtain ⟨item, -, member⟩ := List.mem_flatMap.1 own
    exact item.faults_reported fault member

mutual

theorem Element.faults_reported : ∀ element : Element, ∀ fault ∈ element.faults, fault.Reported
  | ⟨start, children, _⟩, fault, member => by
      rw [Element.faults, List.mem_append] at member
      rcases member with member | inside
      · exact start.faults_reported fault member
      · split at inside
        · cases inside
        · exact nodesFaults_reported children fault inside

theorem Node.faults_reported : ∀ node : Node, ∀ fault ∈ node.faults, fault.Reported
  | .element inner, fault, member => inner.faults_reported fault (by rwa [Node.faults] at member)
  | .text _ _, fault, member | .comment _ _, fault, member => by cases member
  | .interpolation expression span, fault, member => by
      rw [Node.faults] at member
      exact requiredFault_reported fault (Option.mem_toList.1 member)
  | .chain branches _, fault, member => branchesFaults_reported branches fault (by rwa [Node.faults] at member)
  | .branch ⟨element, _⟩, fault, member => element.faults_reported fault (by rwa [Node.faults] at member)
  | .compound _ span, fault, member => by
      rw [Node.faults_compound] at member
      exact ⟨_, span, List.mem_singleton.1 member⟩

theorem nodesFaults_reported : ∀ nodes : List Node, ∀ fault ∈ nodesFaults nodes, fault.Reported
  | [], fault, member => by cases member
  | node :: nodes, fault, member => by
      rw [nodesFaults, List.mem_append] at member
      exact member.elim (node.faults_reported fault) (nodesFaults_reported nodes fault)

theorem branchesFaults_reported : ∀ branches : List Branch, ∀ fault ∈ branchesFaults branches, fault.Reported
  | [], fault, member => by cases member
  | ⟨element, _⟩ :: branches, fault, member => by
      rw [branchesFaults, List.mem_append] at member
      exact member.elim (element.faults_reported fault) (branchesFaults_reported branches fault)

end

theorem Step.faults_reported (step : Step) : ∀ fault ∈ eventFaults step.events, fault.Reported := by
  cases step with
  | push | control | mustache | quoted | quotedMustache => exact List.forall_mem_nil _
  | node tree =>
      rw [Step.events, ← tree.faults_eq]
      exact tree.faults_reported
  | nodes trees =>
      rw [Step.events, ← nodesFaults_eq]
      exact nodesFaults_reported trees
  | element tree =>
      rw [Step.events, ← tree.faults_eq]
      exact tree.faults_reported
  | branches trees =>
      rw [Step.events, ← branchesFaults_eq]
      exact branchesFaults_reported trees
  | conditional test =>
      rw [Step.events, ← test.faults_eq]
      exact test.faults_reported
  | attributes items =>
      rw [Step.events, ← attributesFaults_eq]
      intro fault member
      obtain ⟨item, -, member⟩ := List.mem_flatMap.1 member
      exact item.faults_reported fault member
  | loop inner items =>
      rw [Step.events, eventFaults_loopEvents]
      exact fun fault member => requiredFault_reported fault (Option.mem_toList.1 member)

theorem Step.reported {step : Step} {options : Options} {buffer after : Buffer} {fault : Fault}
    (failed : step.run options buffer = (.error fault, after)) : fault.Reported := by
  rw [Step.run, Step.write_performs, Writer.run_bind, run_performAll] at failed
  cases reported : (eventFaults step.events).head? with
  | none =>
      rw [reported] at failed
      cases failed
  | some first =>
      rw [reported] at failed
      cases failed
      exact step.faults_reported fault (List.mem_of_mem_head? reported)

theorem toMarkup_reported {template : Template} {options : Options} {fault : Fault}
    (failed : template.toMarkup options = .error fault) : fault.Reported :=
  nodesFaults_reported template.children fault (List.mem_of_mem_head? (toMarkup_eq_error_iff.1 failed))

/-! ## The statement -/

open Fault

theorem reports_are_faithful :
    (∀ cause span, ((Fault.of cause span).span = none ↔ span.start.offset = 0 ∧ span.start.line = 1 ∧
        span.start.column = 1 ∧ span.stop.offset = 0 ∧ span.stop.line = 1 ∧ span.stop.column = 1 ∧ span.source = "") ∧
      ((Fault.of cause span).span ≠ none → (Fault.of cause span).span = some span ∧ (Fault.of cause span).message =
        cause.message ++ placeText span.start.line.toNat span.start.column.toNat) ∧
      ((∃ text line column, (Fault.of cause span).message = text ++ placeText line column) ↔
        (Fault.of cause span).span ≠ none)) ∧
    (∀ cause span, readReport? (Fault.of cause span).message = some (cause, (Fault.of cause span).reportedPlace)) ∧
    (∀ cause span other place, (Fault.of cause span).message = (Fault.of other place).message ↔ cause = other ∧
      ((Fault.of cause span).span = none ∧ (Fault.of other place).span = none ∨
        (Fault.of cause span).span ≠ none ∧ (Fault.of other place).span ≠ none ∧
          span.start.line = place.start.line ∧ span.start.column = place.start.column)) ∧
    (∀ template options fault, Template.toMarkup template options = .error fault → ∃ cause span, fault = .of cause span) ∧
    ∀ step options buffer after fault, Step.run step options buffer = (.error fault, after) →
      ∃ cause span, fault = .of cause span := by
  refine ⟨?_, fun _ _ => readReport?_message _, ?_, fun _ _ _ => toMarkup_reported, fun _ _ _ _ _ => Step.reported⟩
  · intro cause span
    refine ⟨by rw [span_of_eq_none_iff, Span.eq_nowhere_iff], fun placed => ⟨span_of_ne_none placed, ?_⟩, ends_iff _⟩
    rw [Fault.of_known cause (mt span_of_eq_none_iff.2 placed)]
    rfl
  · intro cause span other place
    rw [message_eq_iff]
    refine and_congr Iff.rfl ?_
    rw [reportedPlace, reportedPlace]
    by_cases placed : (Fault.of cause span).span = none
    · rw [placed]
      cases (Fault.of other place).span <;> simp
    · by_cases placed' : (Fault.of other place).span = none
      · rw [placed']
        simp
      · rw [span_of_ne_none placed, span_of_ne_none placed']
        simp [UInt32.toNat_inj]

/-- A span with the lines and columns of none, which is known all the same. -/
def besideNowhere : Span := ⟨.origin, .origin, "x"⟩

theorem reports_are_faithful_besideNowhere :
    Template.toMarkup { children := [.compound [] besideNowhere] } {} = .error (.of (.node .compound) besideNowhere) ∧
    (Fault.of (.node .compound) besideNowhere).span = some besideNowhere ∧
    (Fault.of (.node .compound) besideNowhere).message =
      "Unexpected node in mini-program markup generation. (CompoundExpression) (1:1)" ∧
    (Fault.of (.node .compound) besideNowhere).message ≠ (Fault.of (.node .compound) .nowhere).message := by
  obtain ⟨locations, -, messages, -, -⟩ := reports_are_faithful
  obtain ⟨unplaced, known, -⟩ := locations (.node .compound) besideNowhere
  have placed : (Fault.of (.node .compound) besideNowhere).span ≠ none := mt unplaced.1 (by decide)
  refine ⟨toMarkup_eq_error_iff.2 rfl, (known placed).1, (known placed).2.trans (by decide), ?_⟩
  intro same
  obtain ⟨-, ⟨none, -⟩ | ⟨-, placed', -⟩⟩ := (messages _ _ _ _).1 same
  · exact placed none
  · exact placed' rfl

end MiniMarkup
