import MiniMarkup.Proofs.Outcome
import MiniMarkup.Proofs.Scanner

/-!
# Markup reads back

* `nodesMarkup_eq_tokensText`: the markup of a tree is that of its tokens, in document order.
* `nesting_nodesTokens`: the tags of a tree close in order.
* `clean_nodesTokens`: a clean tree has clean tokens.

From these, scanning the markup of a clean tree gives the tokens of the tree.
-/

namespace MiniMarkup

/-! ## The tokens of a tree -/

def mustacheValue (content : String) : Option String :=
  some (quote (mustacheText content))

def Conditional.tagAttribute (options : Options) (conditional : Conditional) : TagAttribute :=
  match conditional.kind with
  | .when => (options.controlPrefix ++ "if", condition)
  | .elseWhen => (options.controlPrefix ++ "elif", condition)
  | .otherwise => (options.controlPrefix ++ "else", none)
where
  condition := mustacheValue (expressionText conditional.condition)

def aliasAttributes (options : Options) (name : String) : Option String → List TagAttribute
  | none => []
  | some value => [(options.controlPrefix ++ name, some (quote value))]

def Loop.tagAttributes (options : Options) (loop : Loop) (attributes : List Attribute) : List TagAttribute :=
  (options.controlPrefix ++ "for", mustacheValue loop.source.text) ::
    (aliasAttributes options "for-item" loop.item ++ aliasAttributes options "for-index" loop.index ++
      aliasAttributes options "key" (loopKey? attributes))

def Attribute.tagAttributes : Attribute → List TagAttribute
  | .plain name value _ => [(name, value)]
  | .directive inner =>
      match inner.boundName? with
      | none => []
      | some name => [(name, mustacheValue (expressionText inner.expression))]

def StartTag.tagAttributes (options : Options) (start : StartTag) : List TagAttribute :=
  start.conditional.elim [] (fun conditional => [conditional.tagAttribute options]) ++
    start.loop.elim [] (fun loop => loop.tagAttributes options start.attributes) ++
    start.ownAttributes.flatMap Attribute.tagAttributes

mutual

def Element.tokens (options : Options) : Element → List Token
  | ⟨start, children, _⟩ =>
      .startTag (start.tag) (start.tagAttributes options) start.selfClosing ::
        if start.selfClosing then []
        else nodesTokens options children ++ [.endTag (start.tag)]

def Node.tokens (options : Options) : Node → List Token
  | .element inner => inner.tokens options
  | .text content _ => [.text content]
  | .comment content _ => if options.comments then [.comment content] else []
  | .interpolation expression _ => [.mustache expression.text]
  | .chain branches _ => branchesTokens options branches
  | .branch ⟨element, _⟩ => element.tokens options
  | .compound _ _ => []

def nodesTokens (options : Options) : List Node → List Token
  | [] => []
  | node :: nodes => node.tokens options ++ nodesTokens options nodes

def branchesTokens (options : Options) : List Branch → List Token
  | [] => []
  | ⟨element, _⟩ :: branches => element.tokens options ++ branchesTokens options branches

end

/-! ## Clean trees -/

def PlainPrefix (options : Options) : Prop :=
  ∀ c ∈ options.controlPrefix.toList, isNameChar c = true

instance : DecidablePred PlainPrefix :=
  fun options => decidable_of_iff (options.controlPrefix.toList.all isNameChar = true) List.all_eq_true

def CleanExpression (text : String) : Prop :=
  '"' ∉ text.toList ∧ '\x7d' ∉ text.toList

def Conditional.Clean (conditional : Conditional) : Prop :=
  conditional.kind ≠ .otherwise → CleanExpression (expressionText conditional.condition)

structure Loop.Clean (loop : Loop) : Prop where
  source : CleanExpression loop.source.text
  item : ∀ name ∈ loop.item, '"' ∉ name.toList
  index : ∀ name ∈ loop.index, '"' ∉ name.toList

/-- Nothing is asked of a directive that leaves no trace. -/
def Attribute.Clean : Attribute → Prop
  | .plain name value _ => CleanAttribute (name, value)
  | .directive inner => ∀ name ∈ inner.boundName?, IsName name ∧ CleanExpression (expressionText inner.expression)

structure StartTag.Clean (start : StartTag) : Prop where
  name : IsName start.name
  conditional : ∀ conditional ∈ start.conditional, conditional.Clean
  loop : ∀ loop ∈ start.loop, loop.Clean
  attributes : ∀ item ∈ start.attributes, item.Clean

mutual

def Element.Clean : Element → Prop
  | ⟨start, children, _⟩ => start.Clean ∧ (start.selfClosing = false → NodesClean children)

def Node.Clean : Node → Prop
  | .element inner => inner.Clean
  | .text content _ => '<' ∉ content.toList ∧ '\x7b' ∉ content.toList
  | .comment content _ => ¬ ['-', '-', '>'] <:+: content.toList
  | .interpolation expression _ => CleanExpression expression.text
  | .chain branches _ => BranchesClean branches
  | .branch ⟨element, _⟩ => element.Clean
  | .compound _ _ => True

def NodesClean : List Node → Prop
  | [] => True
  | node :: nodes => node.Clean ∧ NodesClean nodes

def BranchesClean : List Branch → Prop
  | [] => True
  | ⟨element, _⟩ :: branches => element.Clean ∧ BranchesClean branches

end

/-! ## Markup of tokens -/

section
variable (options : Options)

theorem attributeText_quoted (name value : String) :
    attributeText (name, some (quote value)) = " " ++ name ++ quotedText value := by
  have equals : "=" ++ "\"" = "=\"" := rfl
  rw [attributeText, quote, quotedText, ← equals]
  simp only [String.append_assoc]

theorem attributeText_control (name value : String) :
    attributeText (options.controlPrefix ++ name, some (quote value)) = controlText options name ++ quotedText value := by
  rw [attributeText_quoted, controlText]
  simp only [String.append_assoc]

theorem Conditional.text_tagAttribute (conditional : Conditional) :
    attributeText (conditional.tagAttribute options) = conditional.markup options := by
  obtain ⟨kind, condition, span⟩ := conditional
  cases kind with
  | when => exact attributeText_control options "if" _
  | elseWhen => exact attributeText_control options "elif" _
  | otherwise => simp [Conditional.tagAttribute, Conditional.markup, attributeText, controlText, String.append_assoc]

theorem text_aliasAttributes (name : String) (value : Option String) :
    attributesText (aliasAttributes options name value) = aliasMarkup options name value := by
  cases value with
  | none => rfl
  | some value => rw [aliasAttributes, attributesText_singleton, attributeText_control, aliasMarkup]

theorem Loop.text_tagAttributes (loop : Loop) (attributes : List Attribute) :
    attributesText (loop.tagAttributes options attributes) = loop.markup options attributes := by
  rw [Loop.tagAttributes, attributesText_cons, attributesText_append, attributesText_append, text_aliasAttributes,
    text_aliasAttributes, text_aliasAttributes, mustacheValue, attributeText_control, Loop.markup]
  simp only [String.append_assoc]

theorem Attribute.text_tagAttributes (item : Attribute) : attributesText item.tagAttributes = item.markup := by
  cases item with
  | plain name value span =>
      rw [Attribute.tagAttributes, attributesText_singleton]
      cases value <;> rfl
  | directive inner =>
      rw [Attribute.tagAttributes, Attribute.markup]
      cases inner.boundName? with
      | none => rfl
      | some name => rw [attributesText_singleton, mustacheValue, attributeText_quoted]

theorem text_flatMap_tagAttributes (attributes : List Attribute) :
    attributesText (attributes.flatMap Attribute.tagAttributes) = String.join (attributes.map Attribute.markup) := by
  induction attributes with
  | nil => rfl
  | cons item attributes ih =>
      rw [List.flatMap_cons, attributesText_append, item.text_tagAttributes, ih, List.map_cons, String.join_cons]

theorem StartTag.markup_eq_written (start : StartTag) :
    start.markup options ++ tagEnd start.selfClosing =
      (Token.startTag (start.tag) (start.tagAttributes options) start.selfClosing).written := by
  have conditional : attributesText (start.conditional.elim [] fun conditional => [conditional.tagAttribute options]) =
      start.conditional.elim "" (Conditional.markup options) := by
    cases start.conditional with
    | none => rfl
    | some conditional => exact (attributesText_singleton _).trans (conditional.text_tagAttribute options)
  have loop : attributesText (start.loop.elim [] fun loop => loop.tagAttributes options start.attributes) =
      start.loop.elim "" fun loop => loop.markup options start.attributes := by
    cases start.loop with
    | none => rfl
    | some loop => exact loop.text_tagAttributes options _
  rw [StartTag.markup, Token.written, StartTag.tagAttributes, attributesText_append, attributesText_append, conditional,
    loop, text_flatMap_tagAttributes]
  simp only [String.append_assoc]

mutual

theorem Element.markup_eq_tokensText : ∀ element : Element,
    element.markup options = tokensText (element.tokens options)
  | ⟨start, children, _⟩ => by
      have tag := start.markup_eq_written options
      rw [Element.markup, Element.tokens, tokensText_cons, ← tag]
      cases start.selfClosing with
      | true => rw [if_pos rfl, if_pos rfl, tokensText_nil, String.append_empty, tagEnd, if_pos rfl]
      | false =>
          have opening : tagEnd false = ">" := rfl
          simp only [nodesMarkup_eq_tokensText children, tokensText_append, tokensText_singleton, Token.written, opening,
            String.append_assoc, Bool.false_eq_true, if_false]

theorem Node.markup_eq_tokensText : ∀ node : Node, node.markup options = tokensText (node.tokens options)
  | .element inner => by rw [Node.markup, Node.tokens, inner.markup_eq_tokensText]
  | .text content _ => by rw [Node.markup, Node.tokens, tokensText_singleton, Token.written]
  | .comment content _ => by
      rw [Node.markup, Node.tokens]
      split
      · rw [tokensText_singleton, Token.written]
      · rfl
  | .interpolation expression _ => by rw [Node.markup, Node.tokens, tokensText_singleton, Token.written]
  | .chain branches _ => by rw [Node.markup, Node.tokens, branchesMarkup_eq_tokensText branches]
  | .branch ⟨element, _⟩ => by rw [Node.markup, Node.tokens, element.markup_eq_tokensText]
  | .compound _ _ => rfl

theorem nodesMarkup_eq_tokensText : ∀ nodes : List Node,
    nodesMarkup options nodes = tokensText (nodesTokens options nodes)
  | [] => rfl
  | node :: nodes => by
      rw [nodesMarkup, nodesTokens, tokensText_append, node.markup_eq_tokensText, nodesMarkup_eq_tokensText nodes]

theorem branchesMarkup_eq_tokensText : ∀ branches : List Branch,
    branchesMarkup options branches = tokensText (branchesTokens options branches)
  | [] => rfl
  | ⟨element, _⟩ :: branches => by
      rw [branchesMarkup, branchesTokens, tokensText_append, element.markup_eq_tokensText,
        branchesMarkup_eq_tokensText branches]

end

/-! ## Nesting of tags -/

theorem nesting_endTag (opened : List String) (name : String) : nesting (name :: opened) [.endTag name] = some opened := by
  simp [nesting, Token.nest]

mutual

theorem Element.nesting_tokens (opened : List String) : ∀ element : Element,
    nesting opened (element.tokens options) = some opened
  | ⟨start, children, _⟩ => by
      rw [Element.tokens]
      cases start.selfClosing with
      | true => rfl
      | false =>
          have tagged (tokens : List Token) : nesting opened
              (.startTag (start.tag) (start.tagAttributes options) false :: tokens) =
                nesting (start.tag :: opened) tokens := rfl
          rw [tagged, if_neg Bool.false_ne_true, nesting_append, nesting_nodesTokens _ children, Option.bind_some,
            nesting_endTag]

theorem Node.nesting_tokens (opened : List String) : ∀ node : Node, nesting opened (node.tokens options) = some opened
  | .element inner => by rw [Node.tokens, inner.nesting_tokens]
  | .text _ _ => rfl
  | .comment _ _ => by
      rw [Node.tokens]
      split <;> rfl
  | .interpolation _ _ => rfl
  | .chain branches _ => by rw [Node.tokens, nesting_branchesTokens opened branches]
  | .branch ⟨element, _⟩ => by rw [Node.tokens, element.nesting_tokens]
  | .compound _ _ => rfl

theorem nesting_nodesTokens (opened : List String) : ∀ nodes : List Node,
    nesting opened (nodesTokens options nodes) = some opened
  | [] => rfl
  | node :: nodes => by
      rw [nodesTokens, nesting_append, node.nesting_tokens, Option.bind_some, nesting_nodesTokens opened nodes]

theorem nesting_branchesTokens (opened : List String) : ∀ branches : List Branch,
    nesting opened (branchesTokens options branches) = some opened
  | [] => rfl
  | ⟨element, _⟩ :: branches => by
      rw [branchesTokens, nesting_append, element.nesting_tokens, Option.bind_some,
        nesting_branchesTokens opened branches]

end

end

/-! ## Clean tokens -/

theorem isName_tag {start : StartTag} (named : IsName start.name) : IsName start.tag := by
  rw [StartTag.tag]
  split
  · decide +kernel
  · exact named

theorem isQuoted_mustacheValue {content : String} (clean : CleanExpression content) :
    ∀ value ∈ mustacheValue content, IsQuoted value := by
  rintro value ⟨⟩
  refine ⟨mustacheText content, rfl, ?_⟩
  simp [mustacheText, clean.1]

theorem mem_of_mem_secondSegment {text : String} {c : Char} (member : c ∈ (secondSegment text).toList) :
    c ∈ text.toList := by
  rw [secondSegment] at member
  split at member
  · exact member
  · rename_i behind found
    rw [String.toList_ofList] at member
    have inside : c ∈ text.toList.dropWhile (· != '.') := by
      rw [found]
      exact List.mem_cons_of_mem _ ((List.takeWhile_sublist _).subset member)
    exact (List.dropWhile_sublist _).subset inside

theorem loopKey?_clean {attributes : List Attribute} (clean : ∀ item ∈ attributes, item.Clean) {key : String}
    (found : loopKey? attributes = some key) : '"' ∉ key.toList := by
  obtain ⟨expression, bound, named⟩ := Option.bind_eq_some_iff.1 found
  obtain ⟨item, first, value⟩ := Option.bind_eq_some_iff.1 bound
  have key : item.BindsKey := by simpa using List.find?_some first
  obtain ⟨binding, -, -, rfl, -⟩ := id key
  obtain ⟨-, unquoted, -⟩ := clean _ (List.mem_of_find?_eq_some first) "key" (Directive.bindsKey_iff.1 key)
  have text : expressionText binding.expression = expression.text := congrArg expressionText value
  rw [text] at unquoted
  obtain ⟨-, rfl, -⟩ := loopKey_eq_some_iff.1 named
  intro quoted
  exact unquoted (mem_of_mem_secondSegment quoted)

theorem mem_of_mem_remainingAttributes {inLoop : Bool} {attributes : List Attribute} {item : Attribute}
    (member : item ∈ remainingAttributes inLoop attributes) : item ∈ attributes := by
  cases inLoop with
  | false => exact member
  | true => exact List.mem_of_mem_eraseP member

theorem Attribute.clean_tagAttributes {item : Attribute} (clean : item.Clean) :
    ∀ written ∈ item.tagAttributes, CleanAttribute written := by
  cases item with
  | plain name value span =>
      intro written member
      obtain rfl := List.mem_singleton.1 member
      exact clean
  | directive inner =>
      rw [Attribute.tagAttributes]
      cases named : inner.boundName? with
      | none => exact List.forall_mem_nil _
      | some name =>
          intro written member
          obtain rfl := List.mem_singleton.1 member
          obtain ⟨proper, text⟩ := clean name named
          exact ⟨proper, isQuoted_mustacheValue text⟩

section
variable {options : Options} (prefixed : PlainPrefix options)
include prefixed

theorem isName_control {name : String} (named : IsName name) : IsName (options.controlPrefix ++ name) := by
  constructor
  · intro empty
    exact named.1 (String.append_eq_empty_iff.1 empty).2
  · intro c member
    rw [String.toList_append, List.mem_append] at member
    exact member.elim (prefixed c) (named.2 c)

theorem Conditional.clean_tagAttribute {conditional : Conditional} (clean : conditional.Clean) :
    CleanAttribute (conditional.tagAttribute options) := by
  obtain ⟨kind, condition, span⟩ := conditional
  cases kind with
  | when => exact ⟨isName_control prefixed (by decide), isQuoted_mustacheValue (clean nofun)⟩
  | elseWhen => exact ⟨isName_control prefixed (by decide), isQuoted_mustacheValue (clean nofun)⟩
  | otherwise =>
      refine ⟨isName_control prefixed (by decide), ?_⟩
      rintro value ⟨⟩

theorem clean_aliasAttributes {name : String} (named : IsName name) {value : Option String}
    (plain : ∀ text ∈ value, '"' ∉ text.toList) :
    ∀ item ∈ aliasAttributes options name value, CleanAttribute item := by
  cases value with
  | none => exact List.forall_mem_nil _
  | some text =>
      intro item member
      obtain rfl := List.mem_singleton.1 member
      refine ⟨isName_control prefixed named, ?_⟩
      rintro value ⟨⟩
      exact ⟨text, rfl, plain text rfl⟩

theorem Loop.clean_tagAttributes {loop : Loop} (clean : loop.Clean) {attributes : List Attribute}
    (others : ∀ item ∈ attributes, item.Clean) :
    ∀ item ∈ loop.tagAttributes options attributes, CleanAttribute item := by
  intro item member
  rw [Loop.tagAttributes, List.mem_cons, List.mem_append, List.mem_append] at member
  rcases member with rfl | (item_alias | index_alias) | key
  · exact ⟨isName_control prefixed (by decide), isQuoted_mustacheValue clean.source⟩
  · exact clean_aliasAttributes prefixed (by decide) clean.item item item_alias
  · exact clean_aliasAttributes prefixed (by decide) clean.index item index_alias
  · exact clean_aliasAttributes prefixed (by decide) (fun _ found => loopKey?_clean others found) item key

theorem StartTag.clean_tagAttributes {start : StartTag} (clean : start.Clean) :
    ∀ item ∈ start.tagAttributes options, CleanAttribute item := by
  intro item member
  rw [StartTag.tagAttributes, List.mem_append, List.mem_append] at member
  rcases member with (conditional | loop) | own
  · cases found : start.conditional with
    | none => simp [found] at conditional
    | some inner =>
        obtain rfl : item = inner.tagAttribute options := by simpa [found] using conditional
        exact Conditional.clean_tagAttribute prefixed (clean.conditional inner found)
  · cases found : start.loop with
    | none => simp [found] at loop
    | some inner =>
        rw [found] at loop
        exact Loop.clean_tagAttributes prefixed (clean.loop inner found) clean.attributes item loop
  · obtain ⟨source, member, written⟩ := List.mem_flatMap.1 own
    exact Attribute.clean_tagAttributes (clean.attributes source (mem_of_mem_remainingAttributes member)) item written

end

section
variable {options : Options}

mutual

theorem Element.clean_tokens (prefixed : PlainPrefix options) : ∀ element : Element,
    element.Clean → ∀ token ∈ element.tokens options, token.Clean
  | ⟨start, children, _⟩, ⟨tag, inner⟩ => by
      have name := isName_tag tag.name
      rw [Element.tokens, List.forall_mem_cons]
      refine ⟨⟨name, StartTag.clean_tagAttributes prefixed tag⟩, ?_⟩
      intro token member
      split at member
      · cases member
      · rename_i opened
        rcases List.mem_append.1 member with child | ending
        · exact clean_nodesTokens prefixed children (inner (Bool.not_eq_true _ ▸ opened)) token child
        · obtain rfl := List.mem_singleton.1 ending
          exact name

theorem Node.clean_tokens (prefixed : PlainPrefix options) : ∀ node : Node,
    node.Clean → ∀ token ∈ node.tokens options, token.Clean
  | .element inner, clean => inner.clean_tokens prefixed clean
  | .text content _, clean => List.forall_mem_singleton.2 clean
  | .comment content _, clean => by
      rw [Node.tokens]
      split
      · exact List.forall_mem_singleton.2 clean
      · exact List.forall_mem_nil _
  | .interpolation expression _, clean => List.forall_mem_singleton.2 clean.2
  | .chain branches _, clean => clean_branchesTokens prefixed branches clean
  | .branch ⟨element, _⟩, clean => element.clean_tokens prefixed clean
  | .compound _ _, _ => List.forall_mem_nil _

theorem clean_nodesTokens (prefixed : PlainPrefix options) : ∀ nodes : List Node,
    NodesClean nodes → ∀ token ∈ nodesTokens options nodes, token.Clean
  | [], _ => List.forall_mem_nil _
  | node :: nodes, ⟨first, rest⟩ => by
      rw [nodesTokens, List.forall_mem_append]
      exact ⟨node.clean_tokens prefixed first, clean_nodesTokens prefixed nodes rest⟩

theorem clean_branchesTokens (prefixed : PlainPrefix options) : ∀ branches : List Branch,
    BranchesClean branches → ∀ token ∈ branchesTokens options branches, token.Clean
  | [], _ => List.forall_mem_nil _
  | ⟨element, _⟩ :: branches, ⟨first, rest⟩ => by
      rw [branchesTokens, List.forall_mem_append]
      exact ⟨element.clean_tokens prefixed first, clean_branchesTokens prefixed branches rest⟩

end

end

/-! ## The statement -/

theorem markup_reads_back (template : Template) (options : Options) (code : String)
    (prefixed : PlainPrefix options) (clean : NodesClean template.children)
    (written : template.toMarkup options = .ok code) :
    ∃ tokens, scan code.toList = some tokens ∧ tokens = mergeText (nodesTokens options template.children) ∧
      TextsMerged tokens ∧ tokensText tokens = code ∧ WellNested tokens := by
  obtain ⟨-, rfl⟩ := toMarkup_eq_ok_iff.1 written
  refine ⟨_, ?_, rfl, mergeText_merged _, ?_, ?_⟩
  · rw [nodesMarkup_eq_tokensText]
    exact scan_tokensText (clean_nodesTokens prefixed template.children clean)
  · rw [tokensText_mergeText, nodesMarkup_eq_tokensText]
  · rw [WellNested, nesting_mergeText]
    exact nesting_nodesTokens options [] template.children

def keyedListTag : StartTag where
  name := "template"
  loop := some { source := .simple "xs" false .nowhere, item := some "x" }
  attributes :=
    [.plain "class" (some "\"row\"") .nowhere,
      .directive { kind := .bind, argument := some (.simple "key" true .nowhere)
                   expression := some (.simple "x.id" false .nowhere) }]

def imageTag : StartTag where
  name := "image"
  selfClosing := true
  attributes := [.plain "lazy" none .nowhere]

def keyedList : Template where
  children :=
    [.text "a" .nowhere, .text "b" .nowhere, .comment "rows" .nowhere,
      .element ⟨keyedListTag,
        [.element ⟨imageTag, [], .nowhere⟩, .interpolation (.simple "x.name" false .nowhere) .nowhere], .nowhere⟩]

def keyedListMarkup : String :=
  "ab<!--rows--><block wx:for=\"\x7b\x7bxs\x7d\x7d\" wx:for-item=\"x\" wx:key=\"id\" class=\"row\">" ++
    "<image lazy/>\x7b\x7bx.name\x7d\x7d</block>"

theorem keyedList_clean : NodesClean keyedList.children := by
  have tag : StartTag.Clean keyedListTag := by
    constructor
    · decide
    · rintro conditional ⟨⟩
    · rintro loop ⟨⟩
      refine ⟨⟨by decide, by decide⟩, ?_, ?_⟩
      · rintro name ⟨⟩
        decide
      · rintro name ⟨⟩
    · intro item member
      rcases List.mem_cons.1 member with rfl | member
      · refine ⟨by decide, ?_⟩
        rintro value ⟨⟩
        exact ⟨"row", rfl, by decide⟩
      · obtain rfl := List.mem_singleton.1 member
        rintro name ⟨⟩
        exact ⟨by decide, by decide, by decide⟩
  have image : StartTag.Clean imageTag := by
    constructor
    · decide
    · rintro conditional ⟨⟩
    · rintro loop ⟨⟩
    · intro item member
      obtain rfl := List.mem_singleton.1 member
      refine ⟨by decide, ?_⟩
      rintro value ⟨⟩
  exact ⟨⟨by decide, by decide⟩, ⟨by decide, by decide⟩, by unfold Node.Clean; decide,
    ⟨tag, fun _ => ⟨⟨image, nofun⟩, ⟨by decide, by decide⟩, trivial⟩⟩, trivial⟩

theorem markup_reads_back_keyedList :
    PlainPrefix { comments := true } ∧ NodesClean keyedList.children ∧
      keyedList.toMarkup { comments := true } = .ok keyedListMarkup ∧
      ∃ tokens, scan keyedListMarkup.toList = some tokens ∧
        tokens = mergeText (nodesTokens { comments := true } keyedList.children) ∧
        TextsMerged tokens ∧ tokensText tokens = keyedListMarkup ∧ WellNested tokens := by
  have prefixed : PlainPrefix { comments := true } := by decide
  have written : keyedList.toMarkup { comments := true } = .ok keyedListMarkup :=
    toMarkup_eq_ok_iff.2 ⟨rfl, rfl⟩
  exact ⟨prefixed, keyedList_clean, written, markup_reads_back _ _ _ prefixed keyedList_clean written⟩

end MiniMarkup
