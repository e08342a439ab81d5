import MiniMarkup.Proofs.KeySplits
import MiniMarkup.Proofs.Outcome

/-!
# The keys of loops

A text falls into segments at its dots in just one way (`segmented_iff`). The key that it stands for is its second
segment, untrimmed, or else the whole of a text that has no dot (`loopKey_of_segmented`, `loopKey_of_whole`). A loop
writes the key of the text that the first binding of `key` binds, and no other key (`StartTag.keyValues_events`).
Only a second segment can be a blank key (`blank_loopKey_iff`).
-/

namespace MiniMarkup

/-! ## Segments -/

/-- The texts between the dots of a text, from left to right. -/
structure Segmented (text : String) (segments : List String) : Prop where
  nonempty : segments ≠ []
  dotless : ∀ segment ∈ segments, '.' ∉ segment.toList
  joined : ".".intercalate segments = text

def dotSegments (text : String) : List String :=
  (text.toList.splitOn '.').map String.ofList

theorem dotless_splitOn (chars : List Char) : ∀ segment ∈ chars.splitOn '.', '.' ∉ segment := by
  induction chars with
  | nil => simp
  | cons c chars ih =>
      rw [List.splitOn_eq_splitOnP] at ih ⊢
      rw [List.splitOnP_cons_eq_if_modifyHead]
      split
      · exact List.forall_mem_cons.2 ⟨List.not_mem_nil, ih⟩
      · rename_i other
        cases split : chars.splitOnP (· == '.') with
        | nil => exact List.forall_mem_nil _
        | cons first rest =>
            rw [split] at ih
            obtain ⟨dotless, later⟩ := List.forall_mem_cons.1 ih
            refine List.forall_mem_cons.2 ⟨?_, later⟩
            rw [List.mem_cons, not_or]
            exact ⟨fun dot => other (beq_iff_eq.2 dot.symm), dotless⟩

theorem segmented_iff {text : String} {segments : List String} :
    Segmented text segments ↔ segments = dotSegments text := by
  constructor
  · rintro ⟨nonempty, dotless, rfl⟩
    have cut : (['.'].intercalate (segments.map String.toList)).splitOn '.' = segments.map String.toList := by
      apply List.splitOn_intercalate
      · simpa using dotless
      · simpa using nonempty
    rw [dotSegments, String.toList_intercalate]
    change segments = ((['.'].intercalate (segments.map String.toList)).splitOn '.').map String.ofList
    rw [cut, List.map_map]
    exact (List.map_id'' (fun segment => String.ofList_toList) segments).symm
  · rintro rfl
    refine ⟨?_, ?_, ?_⟩
    · simp [dotSegments, List.splitOn_ne_nil]
    · simpa [dotSegments] using dotless_splitOn text.toList
    · rw [← String.toList_inj, String.toList_intercalate, dotSegments, List.map_map]
      have chars : (String.toList ∘ String.ofList) = id := funext fun _ => String.toList_ofList
      rw [chars, List.map_id]
      exact List.intercalate_splitOn '.'

theorem exists_segmented (text : String) :
    ∃ segments, Segmented text segments ∧ ∀ other, Segmented text other → other = segments :=
  ⟨dotSegments text, segmented_iff.2 rfl, fun _ => segmented_iff.1⟩

/-! ## Keys of texts -/

theorem loopKey_of_whole {text : String} (segmented : Segmented text [text]) :
    loopKey text = if Text.isBlank text then none else some text := by
  have plain : '.' ∉ text.toList := segmented.dotless text List.mem_cons_self
  rw [loopKey, secondSegment_of_no_dot plain]
  cases blank : Text.isBlank text with
  | true => rfl
  | false =>
      have visible : text ≠ "" := by
        rintro rfl
        cases blank
      rw [if_neg visible]

section
variable {text first second : String} {rest : List String} (segmented : Segmented text (first :: second :: rest))
include segmented

theorem Segmented.exists_behind :
    ∃ behind, text = first ++ "." ++ second ++ behind ∧ behind.toList.head?.all (· = '.') := by
  obtain ⟨-, -, rfl⟩ := segmented
  rw [String.intercalate_cons_cons]
  cases rest with
  | nil => exact ⟨"", by simp, rfl⟩
  | cons third rest =>
      refine ⟨"." ++ ".".intercalate (third :: rest), ?_, by simp⟩
      rw [String.intercalate_cons_cons]
      simp only [String.append_assoc]

theorem loopKey_of_segmented : loopKey text = if second = "" then none else some second := by
  obtain ⟨dotless, inside, -⟩ := by simpa using segmented.dotless
  obtain ⟨behind, rfl, ended⟩ := segmented.exists_behind
  have visible : Text.isBlank (first ++ "." ++ second ++ behind) = false := by
    have dot : Text.isBlank "." = false := by decide
    simp [dot]
  have cut : secondSegment (first ++ "." ++ second ++ behind) = second := by
    have chars : first ++ "." ++ second ++ behind =
        String.ofList (first.toList ++ '.' :: (second.toList ++ behind.toList)) := by
      simp [← String.toList_inj]
    rw [chars, secondSegment_of_dot dotless inside ended, String.ofList_toList]
  rw [loopKey, visible, cut]
  rfl

end

theorem segmented_cases (text : String) :
    Segmented text [text] ∨ ∃ first second rest, Segmented text (first :: second :: rest) := by
  obtain ⟨segments, segmented, -⟩ := exists_segmented text
  match segments, segmented with
  | [], segmented => exact (segmented.nonempty rfl).elim
  | [whole], segmented =>
      have same : whole = text := by simpa using segmented.joined
      exact .inl (same ▸ segmented)
  | first :: second :: rest, segmented => exact .inr ⟨first, second, rest, segmented⟩

theorem loopKey_part {text key : String} (found : loopKey text = some key) :
    key ≠ "" ∧ '.' ∉ key.toList ∧ ∃ before behind, text = before ++ key ++ behind := by
  refine ⟨(loopKey_eq_some_iff.1 found).2.2, ?_⟩
  obtain segmented | ⟨first, second, rest, segmented⟩ := segmented_cases text
  · rw [loopKey_of_whole segmented, Option.ite_none_left_eq_some, Option.some_inj] at found
    obtain ⟨-, rfl⟩ := found
    exact ⟨segmented.dotless _ List.mem_cons_self, "", "", by simp⟩
  · rw [loopKey_of_segmented segmented, Option.ite_none_left_eq_some, Option.some_inj] at found
    obtain ⟨-, rfl⟩ := found
    obtain ⟨behind, whole, -⟩ := segmented.exists_behind
    exact ⟨segmented.dotless _ (List.mem_cons_of_mem _ List.mem_cons_self), first ++ ".", behind, whole⟩

/-- A key has no dot, so that only blankness keeps it from being its own key. -/
theorem loopKey_loopKey {text key : String} (found : loopKey text = some key) :
    loopKey key = if Text.isBlank key then none else some key := by
  obtain ⟨-, dotless, -⟩ := loopKey_part found
  exact loopKey_of_whole ⟨List.cons_ne_nil _ _, by simpa using dotless, by simp⟩

/-- The second segment of `text` is `key`, which is blank but not empty. -/
structure BlankSecond (text key : String) : Prop where
  segmented : ∃ first rest, Segmented text (first :: key :: rest)
  nonempty : key ≠ ""
  blank : Text.isBlank key = true

theorem blank_loopKey_iff {text key : String} :
    loopKey text = some key ∧ Text.isBlank key = true ↔ BlankSecond text key := by
  constructor
  · rintro ⟨found, blank⟩
    refine ⟨?_, (loopKey_part found).1, blank⟩
    -- the check for blank texts covers a whole text, but not what is cut out of it
    obtain segmented | ⟨first, second, rest, segmented⟩ := segmented_cases text
    · rw [loopKey_of_whole segmented, Option.ite_none_left_eq_some, Option.some_inj] at found
      obtain ⟨visible, rfl⟩ := found
      exact (visible blank).elim
    · rw [loopKey_of_segmented segmented, Option.ite_none_left_eq_some, Option.some_inj] at found
      obtain ⟨-, rfl⟩ := found
      exact ⟨first, rest, segmented⟩
  · rintro ⟨⟨first, rest, segmented⟩, visible, blank⟩
    exact ⟨by rw [loopKey_of_segmented segmented, if_neg visible], blank⟩

/-! ## Keys of loops -/

/-- The first binding of `key` among some attributes binds this expression. -/
def BoundKey (attributes : List Attribute) (expression : Expression) : Prop :=
  ∃ before binding behind, attributes = before ++ .directive binding :: behind ∧
    (∀ item ∈ before, ¬item.BindsKey) ∧ (Attribute.directive binding).BindsKey ∧ binding.expression = some expression

theorem loopKey?_eq_some_iff {attributes : List Attribute} {key : String} :
    loopKey? attributes = some key ↔
      ∃ expression, BoundKey attributes expression ∧ loopKey expression.text = some key := by
  constructor
  · intro named
    obtain ⟨split, same⟩ : ∃ split, KeySplit.ofAttributes attributes = split := ⟨_, rfl⟩
    cases KeySplit.split_iff.1 same with
    | @first before behind binding own key =>
        rw [loopKey?_of_first own key, Option.bind_eq_some_iff] at named
        obtain ⟨expression, bound, named⟩ := named
        exact ⟨expression, ⟨before, binding, behind, rfl, own, key, bound⟩, named⟩
    | absent own =>
        rw [loopKey?_of_absent own] at named
        cases named
  · rintro ⟨expression, ⟨before, binding, behind, rfl, own, key, bound⟩, named⟩
    rw [loopKey?_of_first own key, bound]
    exact named

/-! ## Key attributes among events -/

def Event.keyValue? (event : Event) : Option String :=
  match event.piece with
  | .control "key" value => some value
  | _ => none

/-- The values of the loop key attributes among some events, with their quotes. -/
def keyValues (events : List Event) : List String :=
  events.filterMap Event.keyValue?

theorem keyValues_append (before behind : List Event) :
    keyValues (before ++ behind) = keyValues before ++ keyValues behind :=
  List.filterMap_append

theorem Conditional.keyValues_events (conditional : Conditional) : keyValues conditional.events = [] := by
  obtain ⟨kind, condition, span⟩ := conditional
  cases kind <;> rfl

theorem keyValues_controlEvents {name : String} (other : name ≠ "key") (value : Option String) :
    keyValues (controlEvents name value) = [] := by
  cases value with
  | none => rfl
  | some value => simp [keyValues, controlEvents, Event.keyValue?, other]

theorem Loop.keyValues_events (loop : Loop) (attributes : List Attribute) :
    keyValues (loop.events attributes) = (loopKey? attributes).toList.map quotedText := by
  have source : keyValues [⟨.control "for" (quotedText (mustacheText loop.source.text)), loop.fault⟩] = [] := rfl
  have key : keyValues (controlEvents "key" (loopKey? attributes)) = (loopKey? attributes).toList.map quotedText := by
    cases loopKey? attributes <;> rfl
  rw [Loop.events, ← List.singleton_append, keyValues_append, keyValues_append, keyValues_append, source,
    keyValues_controlEvents (by decide), keyValues_controlEvents (by decide), key]
  rfl

theorem Attribute.keyValues_events (item : Attribute) : keyValues item.events = [] := by
  cases item with
  | plain name value span => cases value <;> rfl
  | directive inner =>
      rw [Attribute.events, Directive.events]
      cases inner.boundName? <;> rfl

theorem StartTag.keyValues_events {start : StartTag} {loop : Loop} (looped : start.loop = some loop) :
    keyValues start.events = (loopKey? start.attributes).toList.map quotedText := by
  have opening : keyValues [⟨.verbatim ("<" ++ start.tag), none⟩] = [] := rfl
  have conditional : keyValues start.conditionalEvents = [] := by
    rw [StartTag.conditionalEvents]
    cases start.conditional with
    | none => rfl
    | some conditional => exact conditional.keyValues_events
  have loopEvents : start.loopEvents = loop.events start.attributes := by
    rw [StartTag.loopEvents, looped, Option.elim_some]
  have attributes : keyValues (start.ownAttributes.flatMap Attribute.events) = [] := by
    rw [keyValues, List.filterMap_flatMap, List.flatMap_eq_nil_iff]
    exact fun item _ => item.keyValues_events
  rw [StartTag.events, ← List.singleton_append, keyValues_append, keyValues_append, keyValues_append, opening, conditional,
    loopEvents, loop.keyValues_events, attributes, List.append_nil]
  rfl

theorem quotedText_inj {value other : String} : quotedText value = quotedText other ↔ value = other := by
  simp [quotedText, String.append_right_inj, String.append_left_inj]

theorem keyValues_eq_singleton_iff {start : StartTag} {loop : Loop} (looped : start.loop = some loop) {key : String} :
    keyValues start.events = [quotedText key] ↔ loopKey? start.attributes = some key := by
  rw [StartTag.keyValues_events looped]
  cases loopKey? start.attributes <;> simp [quotedText_inj]

theorem keyValues_eq_nil_iff {start : StartTag} {loop : Loop} (looped : start.loop = some loop) :
    keyValues start.events = [] ↔ loopKey? start.attributes = none := by
  rw [StartTag.keyValues_events looped]
  cases loopKey? start.attributes <;> simp

theorem Element.markup_eq_start (options : Options) (element : Element) :
    element.markup options = eventMarkup options element.start.events ++
      if element.start.selfClosing then "/>"
      else ">" ++ nodesMarkup options element.children ++ "</" ++ element.start.tag ++ ">" := by
  obtain ⟨start, children, span⟩ := element
  rw [Element.markup, start.markup_eq]

/-! ## The statements -/

theorem loop_keys_are_second_segments :
    (∀ text, ∃ segments, Segmented text segments ∧ ∀ other, Segmented text other → other = segments) ∧
    (∀ text, Segmented text [text] → ((∃ c ∈ text.toList, Text.isWhiteSpace c = false) → loopKey text = some text) ∧
      (¬(∃ c ∈ text.toList, Text.isWhiteSpace c = false) → loopKey text = none)) ∧
    (∀ text first second rest, Segmented text (first :: second :: rest) →
      loopKey text = if second = "" then none else some second) ∧
    (∀ text key, loopKey text = some key → key ≠ "" ∧ '.' ∉ key.toList ∧ ∃ before behind, text = before ++ key ++ behind) ∧
    (∀ text other first second rest first' rest', Segmented text (first :: second :: rest) →
      Segmented other (first' :: second :: rest') → loopKey text = loopKey other) ∧
    ∀ element loop options buffer after, element.start.loop = some loop →
      Element.write element options buffer = .ok () after →
      after = buffer.push (eventMarkup options element.start.events ++
        if element.start.selfClosing then "/>"
        else ">" ++ nodesMarkup options element.children ++ "</" ++ element.start.tag ++ ">") ∧
      (∀ key, keyValues element.start.events = [quotedText key] ↔
        ∃ expression, BoundKey element.start.attributes expression ∧ loopKey expression.text = some key) ∧
      (keyValues element.start.events = [] ↔
        ¬∃ key expression, BoundKey element.start.attributes expression ∧ loopKey expression.text = some key) := by
  refine ⟨exists_segmented, ?_, fun _ _ _ _ => loopKey_of_segmented, fun _ _ => loopKey_part, ?_, ?_⟩
  · intro text segmented
    have visible : Text.isBlank text = true ↔ ¬∃ c ∈ text.toList, Text.isWhiteSpace c = false := by
      simp [Text.isBlank_eq_true_iff]
    rw [loopKey_of_whole segmented, ← visible]
    exact ⟨fun found => if_neg fun blank => visible.1 blank found, fun blank => if_pos blank⟩
  · intro text other first second rest first' rest' segmented segmented'
    rw [loopKey_of_segmented segmented, loopKey_of_segmented segmented']
  · intro element loop options buffer after looped written
    obtain ⟨-, rfl⟩ := Element.write_eq_ok_iff.1 written
    refine ⟨by rw [element.markup_eq_start], fun key => ?_, ?_⟩
    · rw [keyValues_eq_singleton_iff looped, loopKey?_eq_some_iff]
    · simp only [keyValues_eq_nil_iff looped, ← loopKey?_eq_some_iff, Option.eq_none_iff_forall_ne_some, not_exists]

/-- A row whose key is cut across the parts of an expression. -/
def piecedRow : Element where
  start :=
    { name := "row"
      loop := some { source := .simple "rows" false .nowhere }
      attributes := [.directive { kind := .bind, argument := some (.simple "key" true .nowhere)
                                  expression := some (.compound [.text "row.i" .nowhere, .literal "d",
                                    .expression (.simple ".x" false .nowhere)] .nowhere) }] }
  children := []
  span := .nowhere

theorem loop_keys_are_second_segments_piecedRow :
    Segmented "row.id.x" ["row", "id", "x"] ∧ loopKey "row.id.x" = some "id" ∧
    piecedRow.write {} .empty =
      .ok () (Buffer.empty.push "<row wx:for=\"\x7b\x7brows\x7d\x7d\" wx:key=\"id\"></row>") ∧
    keyValues piecedRow.start.events = [quotedText "id"] := by
  obtain ⟨-, -, second, -, -, loops⟩ := loop_keys_are_second_segments
  have segmented : Segmented "row.id.x" ["row", "id", "x"] := ⟨List.cons_ne_nil _ _, by decide, by decide⟩
  have key : loopKey "row.id.x" = some "id" := second _ _ _ _ segmented
  have written : piecedRow.write {} .empty =
      .ok () (Buffer.empty.push "<row wx:for=\"\x7b\x7brows\x7d\x7d\" wx:key=\"id\"></row>") :=
    Element.write_eq_ok_iff.2 ⟨rfl, congrArg Buffer.empty.push (by decide)⟩
  obtain ⟨-, found, -⟩ := loops piecedRow _ {} .empty _ rfl written
  have bound : BoundKey piecedRow.start.attributes _ :=
    ⟨[], _, [], rfl, List.forall_mem_nil _, ⟨_, _, _, rfl, rfl, rfl⟩, rfl⟩
  exact ⟨segmented, key, written, (found "id").2 ⟨_, bound, key⟩⟩

theorem blank_keys_are_second_segments :
    (∀ text, Text.isBlank text = true → loopKey text = none) ∧
    (∀ text key, loopKey text = some key ∧ Text.isBlank key = true ↔ BlankSecond text key) ∧
    (∀ text key, loopKey text = some key → key ≠ "" ∧ loopKey key = if Text.isBlank key then none else some key) ∧
    ∀ loop attributes options buffer,
      (∀ fault after, Loop.write loop attributes options buffer = .error fault after → after = buffer) ∧
      ∀ split after, Loop.write loop attributes options buffer = .ok split after →
        after = buffer.push (eventMarkup options (loop.events attributes)) ∧
        ∀ key, quotedText key ∈ keyValues (loop.events attributes) ∧ Text.isBlank key = true ↔
          ∃ expression, BoundKey attributes expression ∧ BlankSecond expression.text key := by
  refine ⟨fun _ blank => if_pos blank, fun _ _ => blank_loopKey_iff,
    fun _ _ found => ⟨(loopKey_part found).1, loopKey_loopKey found⟩, ?_⟩
  intro loop attributes options buffer
  constructor
  · intro fault after failed
    rw [Loop.run_write] at failed
    cases found : loop.fault with
    | none =>
        rw [found] at failed
        cases failed
    | some other =>
        rw [found] at failed
        cases failed
        rfl
  · intro split after written
    obtain ⟨-, -, rfl⟩ := Loop.write_eq_ok_iff.1 written
    refine ⟨by rw [Loop.markup_eq], fun key => ?_⟩
    have written_iff : quotedText key ∈ keyValues (loop.events attributes) ↔ loopKey? attributes = some key := by
      rw [loop.keyValues_events]
      simp [quotedText_inj]
    simp only [written_iff, loopKey?_eq_some_iff, ← blank_loopKey_iff]
    constructor
    · rintro ⟨⟨expression, bound, found⟩, blank⟩
      exact ⟨expression, bound, found, blank⟩
    · rintro ⟨expression, bound, found, blank⟩
      exact ⟨⟨expression, bound, found⟩, blank⟩

def blankKey : Attribute :=
  .directive { kind := .bind, argument := some (.simple "key" true .nowhere)
               expression := some (.simple "item. " false .nowhere) }

theorem blank_keys_are_second_segments_item :
    BlankSecond "item. " " " ∧ loopKey "item. " = some " " ∧ loopKey " " = none ∧
    ∃ split after, Loop.write { source := .simple "xs" false .nowhere } [blankKey] {} .empty = .ok split after ∧
      after = Buffer.empty.push " wx:for=\"\x7b\x7bxs\x7d\x7d\" wx:key=\" \"" ∧
      quotedText " " ∈ keyValues (Loop.events { source := .simple "xs" false .nowhere } [blankKey]) := by
  obtain ⟨whole, second, again, loops⟩ := blank_keys_are_second_segments
  have segmented : Segmented "item. " ["item", " "] := ⟨List.cons_ne_nil _ _, by decide, by decide⟩
  have blank : BlankSecond "item. " " " := ⟨⟨_, _, segmented⟩, by decide, by decide⟩
  have key : loopKey "item. " = some " " := ((second _ _).2 blank).1
  have unkeyed : loopKey " " = none := ((again _ _ key).2).trans (if_pos blank.blank)
  have written : Loop.write { source := .simple "xs" false .nowhere } [blankKey] {} .empty =
      .ok (KeySplit.ofAttributes [blankKey]) (Buffer.empty.push " wx:for=\"\x7b\x7bxs\x7d\x7d\" wx:key=\" \"") :=
    Loop.write_eq_ok_iff.2 ⟨by decide, rfl, congrArg Buffer.empty.push (by decide)⟩
  have bound : BoundKey [blankKey] (.simple "item. " false .nowhere) :=
    ⟨[], _, [], rfl, List.forall_mem_nil _, ⟨_, _, _, rfl, rfl, rfl⟩, rfl⟩
  obtain ⟨-, found⟩ := (loops _ [blankKey] {} .empty).2 _ _ written
  have member := ((found " ").2 ⟨_, bound, by rw [Expression.text_simple]; exact blank⟩).1
  exact ⟨blank, key, unkeyed, _, _, written, rfl, member⟩

theorem blank_key_of_item :
    (loopKey "item. " = some " " ∧ Text.isBlank " " = true ∧ loopKey " " ≠ some " ") ∧
    ¬((∀ text key, loopKey text = some key → Text.isBlank key = false ∧ loopKey key = some key) ∧
      ∀ loop attributes options buffer split after key, Loop.write loop attributes options buffer = .ok split after →
        quotedText key ∈ keyValues (loop.events attributes) → Text.isBlank key = false) := by
  have key : loopKey "item. " = some " " := by decide
  have blank : Text.isBlank " " = true := by decide
  refine ⟨⟨key, blank, by decide⟩, ?_⟩
  rintro ⟨usable, -⟩
  rw [(usable _ _ key).1] at blank
  cases blank

end MiniMarkup
