import MiniMarkup.Proofs.Denotation

/-!
# Tokens

Markup as a list of tags, mustaches, comments and texts. A text may stand in several tokens, of which some are
empty; `mergeText` gives the list in which each text is one token.
-/

namespace MiniMarkup

/-- An attribute of a start tag: its name and its value as written, with its quotes. -/
abbrev TagAttribute := String × Option String

inductive Token where
  | text (content : String)
  | mustache (content : String)
  | comment (content : String)
  | startTag (name : String) (attributes : List TagAttribute) (selfClosing : Bool)
  | endTag (name : String)
  deriving DecidableEq, Repr

def attributeText : TagAttribute → String
  | (name, none) => " " ++ name
  | (name, some value) => " " ++ name ++ "=" ++ value

def attributesText (items : List TagAttribute) : String :=
  String.join (items.map attributeText)

def quote (value : String) : String :=
  "\"" ++ value ++ "\""

def tagEnd (selfClosing : Bool) : String :=
  if selfClosing then "/>" else ">"

def Token.written : Token → String
  | text content => content
  | mustache content => mustacheText content
  | comment content => commentText content
  | startTag name attributes selfClosing =>
      "<" ++ name ++ attributesText attributes ++ tagEnd selfClosing
  | endTag name => "</" ++ name ++ ">"

def tokensText (tokens : List Token) : String :=
  String.join (tokens.map Token.written)

/-! ## Merged texts -/

/-- Puts a token before others, as one text with a text before them. -/
def Token.join : Token → List Token → List Token
  | text content, text more :: tokens => text (content ++ more) :: tokens
  | text content, tokens => if content = "" then tokens else text content :: tokens
  | token, tokens => token :: tokens

def mergeText (tokens : List Token) : List Token :=
  tokens.foldr Token.join []

/-- No text is empty, and none stands before another. -/
def TextsMerged : List Token → Prop
  | [] => True
  | .text content :: tokens => content ≠ "" ∧ (∀ more, tokens.head? ≠ some (.text more)) ∧ TextsMerged tokens
  | _ :: tokens => TextsMerged tokens

/-! ## Nesting -/

/-- The names of the open tags, innermost first, behind a token. Only the innermost may be closed. -/
def Token.nest (opened : List String) : Token → Option (List String)
  | startTag name _ false => some (name :: opened)
  | endTag name =>
      match opened with
      | [] => none
      | innermost :: others => if name = innermost then some others else none
  | _ => some opened

def nesting (opened : List String) (tokens : List Token) : Option (List String) :=
  tokens.foldlM Token.nest opened

/-- Each end tag closes the innermost open tag, and no tag stays open. -/
def WellNested (tokens : List Token) : Prop :=
  nesting [] tokens = some []

/-! ## Laws of tokens -/

theorem tokensText_cons (token : Token) (tokens : List Token) :
    tokensText (token :: tokens) = token.written ++ tokensText tokens := by
  rw [tokensText, List.map_cons, String.join_cons, tokensText]

theorem tokensText_nil : tokensText [] = "" := rfl

theorem tokensText_singleton (token : Token) : tokensText [token] = token.written := by
  rw [tokensText_cons, tokensText_nil, String.append_empty]

theorem tokensText_append (before behind : List Token) :
    tokensText (before ++ behind) = tokensText before ++ tokensText behind := by
  simp [tokensText]

theorem attributesText_nil : attributesText [] = "" := rfl

theorem attributesText_cons (item : TagAttribute) (items : List TagAttribute) :
    attributesText (item :: items) = attributeText item ++ attributesText items := by
  rw [attributesText, List.map_cons, String.join_cons, attributesText]

theorem attributesText_singleton (item : TagAttribute) : attributesText [item] = attributeText item := by
  rw [attributesText_cons, attributesText_nil, String.append_empty]

theorem attributesText_append (before behind : List TagAttribute) :
    attributesText (before ++ behind) = attributesText before ++ attributesText behind := by
  simp [attributesText]

theorem nesting_append (opened : List String) (before behind : List Token) :
    nesting opened (before ++ behind) = (nesting opened before).bind fun inner => nesting inner behind :=
  List.foldlM_append

theorem tokensText_join (token : Token) (tokens : List Token) :
    tokensText (token.join tokens) = token.written ++ tokensText tokens := by
  fun_cases Token.join token tokens with
  | case1 content more tokens => simp [tokensText_cons, Token.written, String.append_assoc]
  | case2 tokens other => simp [Token.written]
  | case3 => exact tokensText_cons _ _
  | case4 => exact tokensText_cons _ _

theorem nesting_join (opened : List String) (token : Token) (tokens : List Token) :
    nesting opened (token.join tokens) = nesting opened (token :: tokens) := by
  fun_cases Token.join token tokens <;> rfl

theorem tokensText_mergeText (tokens : List Token) : tokensText (mergeText tokens) = tokensText tokens := by
  induction tokens with
  | nil => rfl
  | cons token tokens ih =>
      rw [mergeText, List.foldr_cons, tokensText_join, tokensText_cons]
      rw [mergeText] at ih
      rw [ih]

theorem nesting_mergeText (opened : List String) (tokens : List Token) :
    nesting opened (mergeText tokens) = nesting opened tokens := by
  induction tokens generalizing opened with
  | nil => rfl
  | cons token tokens ih =>
      rw [mergeText, List.foldr_cons, nesting_join, nesting, nesting, List.foldlM_cons, List.foldlM_cons]
      congr 1
      funext inner
      exact ih inner

theorem join_text_of_other {tokens : List Token} (other : ∀ more rest, tokens ≠ .text more :: rest) (content : String) :
    (Token.text content).join tokens = if content = "" then tokens else .text content :: tokens :=
  Token.join.eq_2 tokens content other

theorem join_merged (token : Token) {tokens : List Token} (merged : TextsMerged tokens) :
    TextsMerged (token.join tokens) := by
  cases token with
  | text content =>
      by_cases starts : ∃ more rest, tokens = .text more :: rest
      · obtain ⟨more, rest, rfl⟩ := starts
        obtain ⟨visible, last, others⟩ := merged
        refine ⟨?_, last, others⟩
        intro empty
        exact visible (String.append_eq_empty_iff.1 empty).2
      · have other : ∀ more rest, tokens ≠ .text more :: rest := fun more rest same => starts ⟨more, rest, same⟩
        rw [join_text_of_other other]
        split
        · exact merged
        · refine ⟨‹_›, ?_, merged⟩
          intro more first
          obtain ⟨rest, same⟩ := List.head?_eq_some_iff.1 first
          exact other more rest same
  | _ => exact merged

theorem mergeText_merged (tokens : List Token) : TextsMerged (mergeText tokens) := by
  induction tokens with
  | nil => trivial
  | cons token tokens ih => exact join_merged token ih

theorem join_text_empty (tokens : List Token) : (Token.text "").join tokens = tokens := by
  cases tokens with
  | nil => rfl
  | cons token tokens => cases token <;> simp [Token.join]

/-- A text may be cut anywhere. -/
theorem join_text_append (first second : String) (tokens : List Token) :
    (Token.text (first ++ second)).join tokens = (Token.text first).join ((Token.text second).join tokens) := by
  by_cases starts : ∃ more rest, tokens = .text more :: rest
  · obtain ⟨more, rest, rfl⟩ := starts
    rw [Token.join, Token.join, Token.join, String.append_assoc]
  · have other : ∀ more rest, tokens ≠ .text more :: rest := fun more rest same => starts ⟨more, rest, same⟩
    rw [join_text_of_other other, join_text_of_other other second]
    by_cases visible : second = ""
    · rw [if_pos visible, visible, String.append_empty, join_text_of_other other]
    · have whole : first ++ second ≠ "" := by simp [visible]
      rw [if_neg visible, if_neg whole, Token.join]

end MiniMarkup
