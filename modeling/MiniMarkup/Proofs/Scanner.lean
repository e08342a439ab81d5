import MiniMarkup.Proofs.Token

/-!
# Reading markup

A reference scanner for markup: start tags with their attributes, end tags, mustaches, comments, and texts of
all that is left. It reads back every list of clean tokens, up to the cutting of texts (`scan_tokensText`).
-/

namespace MiniMarkup

def isNameChar (c : Char) : Bool :=
  c.isAlphanum || ['-', '_', ':', '.'].contains c

def cutAt (stop : List Char) : List Char → Option (List Char × List Char)
  | [] => none
  | c :: rest =>
      if stop.isPrefixOf (c :: rest) then some ([], (c :: rest).drop stop.length)
      else (cutAt stop rest).map fun cut => (c :: cut.1, cut.2)

def scanName (chars : List Char) : Option (String × List Char) :=
  match chars.takeWhile isNameChar with
  | [] => none
  | name => some (.ofList name, chars.dropWhile isNameChar)

/-- A value keeps its quotes. Where no equals sign stands there is none. -/
def scanValue : List Char → Option (Option String × List Char)
  | '=' :: '"' :: rest => (cutAt ['"'] rest).map fun cut => (some (quote (.ofList cut.1)), cut.2)
  | '=' :: _ => none
  | rest => some (none, rest)

def scanAttribute (chars : List Char) : Option (TagAttribute × List Char) :=
  (scanName chars).bind fun (name, rest) =>
    (scanValue rest).map fun (value, behind) => ((name, value), behind)

/-! ## Scanning shortens -/

theorem cutAt_length {stop chars before behind : List Char} (cut : cutAt stop chars = some (before, behind)) :
    behind.length ≤ chars.length := by
  induction chars generalizing before with
  | nil => cases cut
  | cons c rest ih =>
      rw [cutAt] at cut
      split at cut
      · cases cut
        exact (List.drop_sublist _ _).length_le
      · obtain ⟨⟨first, last⟩, inner, same⟩ := Option.map_eq_some_iff.1 cut
        cases same
        exact Nat.le_succ_of_le (ih inner)

theorem scanName_length {chars behind : List Char} {name : String}
    (scanned : scanName chars = some (name, behind)) : behind.length ≤ chars.length := by
  rw [scanName] at scanned
  split at scanned
  · cases scanned
  · cases scanned
    exact (List.dropWhile_sublist _).length_le

theorem scanValue_length {chars behind : List Char} {value : Option String}
    (scanned : scanValue chars = some (value, behind)) : behind.length ≤ chars.length := by
  rw [scanValue.eq_def] at scanned
  split at scanned
  · obtain ⟨⟨first, last⟩, cut, same⟩ := Option.map_eq_some_iff.1 scanned
    cases same
    have shorter := cutAt_length cut
    simp only [List.length_cons]
    omega
  · cases scanned
  · cases scanned
    exact Nat.le_refl _

theorem scanAttribute_length {chars behind : List Char} {item : TagAttribute}
    (scanned : scanAttribute chars = some (item, behind)) : behind.length ≤ chars.length := by
  obtain ⟨⟨name, rest⟩, named, valued⟩ := Option.bind_eq_some_iff.1 scanned
  obtain ⟨⟨value, last⟩, valued, same⟩ := Option.map_eq_some_iff.1 valued
  cases same
  exact Nat.le_trans (scanValue_length valued) (scanName_length named)

/-! ## Tags and tokens -/

/-- The attributes of a tag, whether it closes itself, and what stands behind it. -/
def scanAttributes : List Char → Option (List TagAttribute × Bool × List Char)
  | '>' :: rest => some ([], false, rest)
  | '/' :: '>' :: rest => some ([], true, rest)
  | ' ' :: rest =>
      match _ : scanAttribute rest with
      | none => none
      | some (item, behind) => (scanAttributes behind).map fun tag => (item :: tag.1, tag.2)
  | _ => none
termination_by chars => chars.length
decreasing_by
  have shorter := scanAttribute_length ‹scanAttribute _ = _›
  simp only [List.length_cons]
  omega

theorem scanAttributes_length (chars : List Char) {items : List TagAttribute} {selfClosing : Bool}
    {behind : List Char} (scanned : scanAttributes chars = some (items, selfClosing, behind)) :
    behind.length ≤ chars.length := by
  fun_induction scanAttributes chars generalizing items with
  | case1 rest => cases scanned; exact Nat.le_succ _
  | case2 rest => cases scanned; exact Nat.le_add_right _ 2
  | case3 => cases scanned
  | case4 rest item behind' first ih =>
      obtain ⟨⟨others, closed, last⟩, inner, same⟩ := Option.map_eq_some_iff.1 scanned
      cases same
      have shorter := scanAttribute_length first
      have others := ih inner
      simp only [List.length_cons]
      omega
  | case5 => cases scanned

def scanTag : List Char → Option (Token × List Char)
  | '!' :: '-' :: '-' :: rest => (cutAt ['-', '-', '>'] rest).map fun cut => (.comment (.ofList cut.1), cut.2)
  | '/' :: rest =>
      match scanName rest with
      | some (name, '>' :: behind) => some (.endTag name, behind)
      | _ => none
  | chars =>
      (scanName chars).bind fun (name, rest) =>
        (scanAttributes rest).map fun (items, selfClosing, behind) => (.startTag name items selfClosing, behind)

def scanToken : List Char → Option (Token × List Char)
  | [] => none
  | '<' :: rest => scanTag rest
  | '\x7b' :: '\x7b' :: rest => (cutAt ['\x7d', '\x7d'] rest).map fun cut => (.mustache (.ofList cut.1), cut.2)
  | c :: rest => some (.text (.singleton c), rest)

theorem scanTag_length {chars behind : List Char} {token : Token}
    (scanned : scanTag chars = some (token, behind)) : behind.length ≤ chars.length := by
  rw [scanTag.eq_def] at scanned
  split at scanned
  · obtain ⟨⟨first, last⟩, cut, same⟩ := Option.map_eq_some_iff.1 scanned
    cases same
    have shorter := cutAt_length cut
    simp only [List.length_cons]
    omega
  · split at scanned
    · cases scanned
      have shorter := scanName_length ‹_›
      simp only [List.length_cons] at shorter ⊢
      omega
    · cases scanned
  · obtain ⟨⟨name, rest⟩, named, tag⟩ := Option.bind_eq_some_iff.1 scanned
    obtain ⟨⟨items, selfClosing, last⟩, inner, same⟩ := Option.map_eq_some_iff.1 tag
    cases same
    exact Nat.le_trans (scanAttributes_length _ inner) (scanName_length named)

theorem scanToken_length {chars behind : List Char} {token : Token}
    (scanned : scanToken chars = some (token, behind)) : behind.length < chars.length := by
  rw [scanToken.eq_def] at scanned
  split at scanned
  · cases scanned
  · exact Nat.lt_succ_of_le (scanTag_length scanned)
  · obtain ⟨⟨first, last⟩, cut, same⟩ := Option.map_eq_some_iff.1 scanned
    cases same
    have shorter := cutAt_length cut
    simp only [List.length_cons]
    omega
  · cases scanned
    exact Nat.lt_succ_self _

/-- The tokens of some markup, with each text in one token. -/
def scan (chars : List Char) : Option (List Token) :=
  if chars = [] then some []
  else
    match _ : scanToken chars with
    | none => none
    | some (token, behind) => (scan behind).map token.join
termination_by chars.length
decreasing_by exact scanToken_length ‹scanToken _ = _›

/-! ## Clean tokens -/

def IsName (name : String) : Prop :=
  name ≠ "" ∧ ∀ c ∈ name.toList, isNameChar c = true

instance : DecidablePred IsName :=
  fun name => decidable_of_iff (name ≠ "" ∧ name.toList.all isNameChar = true) (and_congr Iff.rfl List.all_eq_true)

def IsQuoted (value : String) : Prop :=
  ∃ inner : String, value = quote inner ∧ '"' ∉ inner.toList

def CleanAttribute (item : TagAttribute) : Prop :=
  IsName item.1 ∧ ∀ value ∈ item.2, IsQuoted value

/-- Tokens whose contents end where the markup around them says. -/
def Token.Clean : Token → Prop
  | text content => '<' ∉ content.toList ∧ '\x7b' ∉ content.toList
  | mustache content => '\x7d' ∉ content.toList
  | comment content => ¬ ['-', '-', '>'] <:+: content.toList
  | startTag name attributes _ => IsName name ∧ ∀ item ∈ attributes, CleanAttribute item
  | endTag name => IsName name

/-! ## Cutting -/

/-- A cut is made at the first place where `stop` can be read, which may reach behind the content. -/
theorem cutAt_append {stop content rest : List Char} (visible : stop ≠ [])
    (absent : ∀ before behind, content = before ++ behind → behind ≠ [] → ¬ stop <+: behind ++ (stop ++ rest)) :
    cutAt stop (content ++ (stop ++ rest)) = some (content, rest) := by
  induction content with
  | nil =>
      obtain ⟨c, others, rfl⟩ := List.exists_cons_of_ne_nil visible
      have here : (c :: others).isPrefixOf (c :: (others ++ rest)) = true :=
        List.isPrefixOf_iff_prefix.2 (List.prefix_append _ rest)
      rw [List.nil_append, List.cons_append, cutAt, if_pos here]
      simp
  | cons c content ih =>
      have later : stop.isPrefixOf (c :: (content ++ (stop ++ rest))) = false := by
        have not_here := absent [] (c :: content) rfl (List.cons_ne_nil _ _)
        rwa [← List.isPrefixOf_iff_prefix, Bool.not_eq_true] at not_here
      have inner := ih fun before behind same =>
        absent (c :: before) behind (by rw [same, List.cons_append])
      rw [List.cons_append, cutAt, later, inner]
      rfl

theorem cutAt_append_of_notMem {c : Char} {others content : List Char} (absent : c ∉ content) (rest : List Char) :
    cutAt (c :: others) (content ++ (c :: others ++ rest)) = some (content, rest) := by
  apply cutAt_append (List.cons_ne_nil _ _)
  intro before behind same nonempty early
  obtain ⟨first, behind, rfl⟩ := List.exists_cons_of_ne_nil nonempty
  have first_eq : c = first := (List.cons_prefix_cons.1 early).1
  apply absent
  rw [same, first_eq]
  simp

theorem cutAt_comment {content : List Char} (absent : ¬ ['-', '-', '>'] <:+: content) (rest : List Char) :
    cutAt ['-', '-', '>'] (content ++ (['-', '-', '>'] ++ rest)) = some (content, rest) := by
  apply cutAt_append (List.cons_ne_nil _ _)
  intro before behind same nonempty early
  -- the last two characters of a comment cannot open its end, which has no bracket that soon
  match behind, nonempty with
  | [x], _ => simp at early
  | [x, y], _ => simp at early
  | x :: y :: z :: behind, _ =>
      obtain ⟨first, early⟩ := List.cons_prefix_cons.1 early
      obtain ⟨second, early⟩ := List.cons_prefix_cons.1 early
      obtain ⟨third, -⟩ := List.cons_prefix_cons.1 early
      apply absent
      rw [same, ← first, ← second, ← third]
      exact ⟨before, behind, by simp⟩

theorem scanName_append {name : String} {rest : List Char} (clean : IsName name)
    (ends : ∀ c ∈ rest.head?, isNameChar c = false) : scanName (name.toList ++ rest) = some (name, rest) := by
  have taken : (name.toList ++ rest).takeWhile isNameChar = name.toList := by
    rw [List.takeWhile_append_of_pos clean.2]
    cases rest with
    | nil => simp
    | cons c rest => simp [ends c rfl]
  have left : (name.toList ++ rest).dropWhile isNameChar = rest := by
    rw [List.dropWhile_append_of_pos clean.2]
    cases rest with
    | nil => rfl
    | cons c rest => simp [ends c rfl]
  rw [scanName, taken, left]
  split
  · exact absurd (String.toList_eq_nil_iff.1 ‹_›) clean.1
  · rw [String.ofList_toList]

/-! ## Attributes -/

theorem scanValue_quoted {value : String} (quoted : IsQuoted value) (rest : List Char) :
    scanValue ('=' :: (value.toList ++ rest)) = some (some value, rest) := by
  obtain ⟨inner, rfl, plain⟩ := quoted
  have written : (quote inner).toList ++ rest = '"' :: (inner.toList ++ (['"'] ++ rest)) := by simp [quote]
  rw [written, scanValue, cutAt_append_of_notMem plain]
  simp

theorem scanValue_none {chars : List Char} (ends : ∀ c ∈ chars.head?, c ≠ '=') :
    scanValue chars = some (none, chars) := by
  cases chars with
  | nil => rfl
  | cons c rest =>
      have other : c ≠ '=' := ends c rfl
      exact scanValue.eq_3 _ (fun _ same => other (List.cons.inj same).1) fun _ same => other (List.cons.inj same).1

def EndsAttribute (behind : List Char) : Prop :=
  ∀ c ∈ behind.head?, isNameChar c = false ∧ c ≠ '='

def attributeChars : TagAttribute → List Char
  | (name, none) => name.toList
  | (name, some value) => name.toList ++ '=' :: value.toList

theorem attributeText_toList (item : TagAttribute) : (attributeText item).toList = ' ' :: attributeChars item := by
  obtain ⟨name, _ | value⟩ := item <;> simp [attributeText, attributeChars]

theorem scanAttribute_append {item : TagAttribute} {behind : List Char} (clean : CleanAttribute item)
    (ends : EndsAttribute behind) : scanAttribute (attributeChars item ++ behind) = some (item, behind) := by
  obtain ⟨name, _ | value⟩ := item
  · have named := scanName_append clean.1 fun c member => (ends c member).1
    have valued := scanValue_none fun c member => (ends c member).2
    simp only [scanAttribute, attributeChars, named, valued, Option.bind_some, Option.map_some]
  · have equals : ∀ c ∈ ('=' :: (value.toList ++ behind)).head?, isNameChar c = false := by
      rintro c ⟨⟩
      rfl
    have named := scanName_append clean.1 equals
    have valued := scanValue_quoted (clean.2 value rfl) behind
    simp only [scanAttribute, attributeChars, List.append_assoc, List.cons_append, named, valued, Option.bind_some,
      Option.map_some]

theorem scanAttributes_cons {item : TagAttribute} {behind : List Char} (clean : CleanAttribute item)
    (ends : EndsAttribute behind) : scanAttributes ((attributeText item).toList ++ behind) =
      (scanAttributes behind).map fun tag => (item :: tag.1, tag.2) := by
  rw [attributeText_toList, List.cons_append, scanAttributes]
  split
  · rename_i failed
    rw [scanAttribute_append clean ends] at failed
    cases failed
  · rename_i scanned
    rw [scanAttribute_append clean ends] at scanned
    cases scanned
    rfl

theorem endsAttribute_tagEnd (items : List TagAttribute) (selfClosing : Bool) (rest : List Char) :
    EndsAttribute ((attributesText items ++ tagEnd selfClosing).toList ++ rest) := by
  cases items with
  | nil => cases selfClosing <;> rintro c ⟨⟩ <;> decide
  | cons item items =>
      rw [attributesText_cons, String.append_assoc, String.toList_append, attributeText_toList]
      rintro c ⟨⟩
      decide

theorem scanAttributes_append {items : List TagAttribute} (clean : ∀ item ∈ items, CleanAttribute item)
    (selfClosing : Bool) (rest : List Char) :
    scanAttributes ((attributesText items ++ tagEnd selfClosing).toList ++ rest) =
      some (items, selfClosing, rest) := by
  induction items with
  | nil =>
      rw [attributesText_nil, String.empty_append]
      cases selfClosing <;> simp [tagEnd, scanAttributes]
  | cons item items ih =>
      obtain ⟨first, others⟩ := List.forall_mem_cons.1 clean
      rw [attributesText_cons, String.append_assoc, String.toList_append, List.append_assoc,
        scanAttributes_cons first (endsAttribute_tagEnd items selfClosing rest), ih others]
      rfl

/-! ## Tokens -/

theorem IsName.chars {name : String} (named : IsName name) :
    ∃ first others, name.toList = first :: others ∧ isNameChar first = true := by
  obtain ⟨first, others, chars⟩ := List.exists_cons_of_ne_nil (mt String.toList_eq_nil_iff.1 named.1)
  refine ⟨first, others, chars, named.2 first ?_⟩
  rw [chars]
  exact List.mem_cons_self

theorem scanTag_of_name {name : String} (named : IsName name) (behind : List Char) :
    scanTag (name.toList ++ behind) = (scanName (name.toList ++ behind)).bind fun (name, rest) =>
      (scanAttributes rest).map fun (items, selfClosing, behind) => (.startTag name items selfClosing, behind) := by
  obtain ⟨first, others, chars, letter⟩ := named.chars
  -- no name starts like a comment or an end tag
  have other : ∀ c, isNameChar c = false → ∀ tail, name.toList ++ behind = c :: tail → False := by
    intro c mark tail same
    rw [chars] at same
    obtain rfl := (List.cons.inj same).1
    rw [letter] at mark
    cases mark
  exact scanTag.eq_3 _ (fun _ => other '!' rfl _) (fun _ => other '/' rfl _)

theorem scanTag_startTag {name : String} {items : List TagAttribute} (named : IsName name)
    (clean : ∀ item ∈ items, CleanAttribute item) (selfClosing : Bool) (rest : List Char) :
    scanTag (name.toList ++ ((attributesText items ++ tagEnd selfClosing).toList ++ rest)) =
      some (.startTag name items selfClosing, rest) := by
  have ends := endsAttribute_tagEnd items selfClosing rest
  have scanned := scanName_append named fun c member => (ends c member).1
  simp only [scanTag_of_name named, scanned, Option.bind_some, scanAttributes_append clean, Option.map_some]

theorem scanToken_written {token : Token} (clean : token.Clean) (markup : ∀ content, token ≠ .text content)
    (rest : List Char) : scanToken (token.written.toList ++ rest) = some (token, rest) := by
  cases token with
  | text content => exact absurd rfl (markup content)
  | mustache content =>
      have written : (Token.mustache content).written.toList ++ rest =
          '\x7b' :: '\x7b' :: (content.toList ++ (['\x7d', '\x7d'] ++ rest)) := by
        simp [Token.written, mustacheText]
      rw [written, scanToken, cutAt_append_of_notMem clean]
      simp
  | comment content =>
      have written : (Token.comment content).written.toList ++ rest =
          '<' :: '!' :: '-' :: '-' :: (content.toList ++ (['-', '-', '>'] ++ rest)) := by
        simp [Token.written, commentText]
      rw [written, scanToken, scanTag, cutAt_comment clean]
      simp
  | startTag name items selfClosing =>
      have written : (Token.startTag name items selfClosing).written.toList ++ rest =
          '<' :: (name.toList ++ ((attributesText items ++ tagEnd selfClosing).toList ++ rest)) := by
        simp [Token.written]
      rw [written, scanToken, scanTag_startTag clean.1 clean.2]
  | endTag name =>
      have written : (Token.endTag name).written.toList ++ rest = '<' :: '/' :: (name.toList ++ '>' :: rest) := by
        simp [Token.written]
      have scanned : scanName (name.toList ++ '>' :: rest) = some (name, '>' :: rest) := by
        apply scanName_append clean
        rintro c ⟨⟩
        decide
      rw [written, scanToken, scanTag]
      simp only [scanned]

theorem scan_nil : scan [] = some [] := by
  rw [scan, if_pos rfl]

theorem scan_of_scanToken {chars behind : List Char} {token : Token}
    (scanned : scanToken chars = some (token, behind)) : scan chars = (scan behind).map token.join := by
  have visible : chars ≠ [] := by
    rintro rfl
    cases scanned
  rw [scan, if_neg visible]
  split
  · rename_i failed
    rw [scanned] at failed
    cases failed
  · rename_i same
    rw [scanned] at same
    cases same
    rfl

theorem scan_text {chars : List Char} (clean : '<' ∉ chars ∧ '\x7b' ∉ chars) (rest : List Char) :
    scan (chars ++ rest) = (scan rest).map (Token.text (.ofList chars)).join := by
  induction chars with
  | nil =>
      rw [List.nil_append, String.ofList_nil, funext join_text_empty]
      exact Option.map_id'.symm
  | cons c chars ih =>
      obtain ⟨tag, tags⟩ := not_or.1 (mt List.mem_cons.2 clean.1)
      obtain ⟨brace, braces⟩ := not_or.1 (mt List.mem_cons.2 clean.2)
      have scanned : scanToken (c :: (chars ++ rest)) = some (.text (.singleton c), chars ++ rest) :=
        scanToken.eq_4 _ _ (fun same => tag same.symm) fun _ same => absurd same.symm brace
      -- a text is scanned by the character, and the pieces are joined again
      have joined : (Token.text (.ofList (c :: chars))).join =
          (Token.text (.singleton c)).join ∘ (Token.text (.ofList chars)).join := by
        funext tokens
        rw [Function.comp, ← join_text_append, String.ofList_cons]
      rw [List.cons_append, scan_of_scanToken scanned, ih ⟨tags, braces⟩, Option.map_map, joined]

theorem scan_append {token : Token} (clean : token.Clean) (rest : List Char) :
    scan (token.written.toList ++ rest) = (scan rest).map token.join := by
  by_cases text : ∃ content, token = .text content
  · obtain ⟨content, rfl⟩ := text
    have scanned := scan_text clean rest
    rwa [String.ofList_toList] at scanned
  · exact scan_of_scanToken (scanToken_written clean (not_exists.1 text) rest)

theorem scan_tokensText {tokens : List Token} (clean : ∀ token ∈ tokens, token.Clean) :
    scan (tokensText tokens).toList = some (mergeText tokens) := by
  induction tokens with
  | nil => exact scan_nil
  | cons token tokens ih =>
      obtain ⟨first, others⟩ := List.forall_mem_cons.1 clean
      rw [tokensText_cons, String.toList_append, scan_append first, ih others]
      rfl

example : scan "<a b=\"</a>\" c/>".toList = some [.startTag "a" [("b", some "\"</a>\""), ("c", none)] true] := by
  decide +kernel

end MiniMarkup
