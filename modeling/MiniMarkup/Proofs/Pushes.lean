import MiniMarkup.Proofs.Session

/-!
# What a walk pushes

A walk comes down to acts: pushes of single texts, as short as one character, and faults. A writer does its acts
up to the first fault (`Does`), and such acts follow each other as the writers do (`Does.bind`). As every push is
one of a text, the buffer is UTF-8 behind each of them, and reads as the texts that were pushed.
-/

namespace MiniMarkup
open Writer

/-! ## Acts -/

inductive Act where
  | push (text : String)
  | fail (fault : Fault)

/-- The texts that are pushed before the first fault. -/
def pushes : List Act → List String
  | [] => []
  | .push text :: acts => text :: pushes acts
  | .fail _ :: _ => []

def failure? : List Act → Option Fault
  | [] => none
  | .push _ :: acts => failure? acts
  | .fail fault :: _ => some fault

theorem pushes_append_of_sound {before : List Act} (sound : failure? before = none) (behind : List Act) :
    pushes (before ++ behind) = pushes before ++ pushes behind ∧ failure? (before ++ behind) = failure? behind := by
  induction before with
  | nil => exact ⟨rfl, rfl⟩
  | cons act before ih =>
      cases act with
      | push text =>
          obtain ⟨pushed, failed⟩ := ih sound
          exact ⟨congrArg (text :: ·) pushed, failed⟩
      | fail fault => cases sound

theorem pushes_append_of_failed {before : List Act} {fault : Fault} (failed : failure? before = some fault)
    (behind : List Act) : pushes (before ++ behind) = pushes before ∧ failure? (before ++ behind) = some fault := by
  induction before with
  | nil => cases failed
  | cons act before ih =>
      cases act with
      | push text =>
          obtain ⟨pushed, stopped⟩ := ih failed
          exact ⟨congrArg (text :: ·) pushed, stopped⟩
      | fail first => exact ⟨rfl, failed⟩

def Buffer.pushAll (buffer : Buffer) (texts : List String) : Buffer :=
  texts.foldl Buffer.push buffer

theorem Buffer.pushAll_append (buffer : Buffer) (before behind : List String) :
    buffer.pushAll (before ++ behind) = (buffer.pushAll before).pushAll behind :=
  List.foldl_append

/-- `writer` does `acts` up to the first fault, and without one gives back `value`. -/
def Does {α : Type} (options : Options) (writer : Writer α) (acts : List Act) (value : α) : Prop :=
  ∀ buffer, writer options buffer = match failure? acts with
    | none => .ok value (buffer.pushAll (pushes acts))
    | some fault => .error fault (buffer.pushAll (pushes acts))

section
variable {α β : Type} {options : Options}

theorem Does.pure (value : α) : Does options (pure value) [] value :=
  fun _ => rfl

theorem Does.push (text : String) : Does options (Writer.push text) [.push text] () :=
  fun _ => rfl

theorem Does.bind {writer : Writer α} {next : α → Writer β} {acts more : List Act} {value : α} {result : β}
    (first : Does options writer acts value) (second : Does options (next value) more result) :
    Does options (writer >>= next) (acts ++ more) result := by
  intro buffer
  rw [run_bind, first buffer]
  cases failed : failure? acts with
  | none =>
      obtain ⟨pushed, stopped⟩ := pushes_append_of_sound failed more
      rw [pushed, stopped, Buffer.pushAll_append]
      exact second _
  | some fault =>
      obtain ⟨pushed, stopped⟩ := pushes_append_of_failed failed more
      rw [pushed, stopped]

theorem Does.push_then (text : String) {next : Unit → Writer β} {more : List Act} {result : β}
    (second : Does options (next ()) more result) :
    Does options (Writer.push text >>= next) (.push text :: more) result :=
  (Does.push text).bind second

theorem Does.read_then {next : Options → Writer β} {more : List Act} {result : β}
    (second : Does options (next options) more result) : Does options (read >>= next) more result :=
  fun buffer => second buffer

end

/-! ## The acts of a tree -/

def controlActs (options : Options) (name : String) : List Act :=
  [.push " ", .push options.controlPrefix, .push name]

def mustacheActs (content : String) : List Act :=
  [.push "\x7b\x7b", .push content, .push "\x7d\x7d"]

def quotedActs (value : String) : List Act :=
  [.push "=\"", .push value, .push "\""]

def quotedMustacheActs (content : String) : List Act :=
  .push "=\"" :: (mustacheActs content ++ [.push "\""])

/-- The check of a required expression fails or does nothing. -/
def checkActs (fault : Option Fault) : List Act :=
  fault.toList.map .fail

def Conditional.acts (options : Options) (conditional : Conditional) : List Act :=
  match conditional.kind with
  | .when => tested "if"
  | .elseWhen => tested "elif"
  | .otherwise => controlActs options "else"
where
  tested (name : String) : List Act :=
    checkActs conditional.fault ++
      (controlActs options name ++ quotedMustacheActs (expressionText conditional.condition))

def aliasActs (options : Options) (name : String) : Option String → List Act
  | none => []
  | some value => controlActs options name ++ quotedActs value

def Loop.acts (options : Options) (loop : Loop) (attributes : List Attribute) : List Act :=
  checkActs loop.fault ++
    (controlActs options "for" ++ (quotedMustacheActs loop.source.text ++ (aliasActs options "for-item" loop.item ++
      (aliasActs options "for-index" loop.index ++ aliasActs options "key" (loopKey? attributes)))))

def Directive.acts (directive : Directive) : List Act :=
  match directive.boundName? with
  | none => []
  | some name =>
      checkActs directive.fault ++
        (.push " " :: .push name :: quotedMustacheActs (expressionText directive.expression))

def Attribute.acts : Attribute → List Act
  | .plain name none _ => [.push " ", .push name]
  | .plain name (some value) _ => [.push " ", .push name, .push "=", .push value]
  | .directive inner => inner.acts

def StartTag.acts (options : Options) (start : StartTag) : List Act :=
  .push "<" :: .push start.tag ::
    (start.conditional.elim [] (Conditional.acts options) ++
      (start.loop.elim [] (fun loop => loop.acts options start.attributes) ++
        start.ownAttributes.flatMap Attribute.acts))

mutual

def Element.acts (options : Options) : Element → List Act
  | ⟨start, children, _⟩ =>
      start.acts options ++
        if start.selfClosing then [.push "/>"]
        else .push ">" :: (nodesActs options children ++ [.push "</", .push start.tag, .push ">"])

def Node.acts (options : Options) : Node → List Act
  | .element inner => inner.acts options
  | .text content _ => [.push content]
  | .comment content _ => if options.comments then [.push "<!--", .push content, .push "-->"] else []
  | .interpolation expression span =>
      checkActs (requiredFault .missingInterpolation span expression) ++ mustacheActs expression.text
  | .chain branches _ => branchesActs options branches
  | .branch ⟨element, _⟩ => element.acts options
  | .compound _ span => [.fail (.of (.node .compound) span)]

def nodesActs (options : Options) : List Node → List Act
  | [] => []
  | node :: nodes => node.acts options ++ nodesActs options nodes

def branchesActs (options : Options) : List Branch → List Act
  | [] => []
  | ⟨element, _⟩ :: branches => element.acts options ++ branchesActs options branches

end

/-! ## Writers do their acts -/

section
variable (options : Options)

theorem does_control (name : String) : Does options (control name) (controlActs options name) () :=
  .push_then _ (.read_then (.push_then _ (.push _)))

theorem does_mustache (content : String) : Does options (mustache content) (mustacheActs content) () :=
  .push_then _ (.push_then _ (.push _))

theorem does_quoted (value : String) : Does options (quoted value) (quotedActs value) () :=
  .push_then _ (.push_then _ (.push _))

theorem does_quotedMustache (content : String) :
    Does options (quotedMustache content) (quotedMustacheActs content) () :=
  .push_then _ ((does_mustache options content).bind (.push _))

theorem does_required (kind : Fault.Kind) (holder : Span) (expression : Option Expression) :
    Does options (required kind holder expression) (checkActs (requiredFault kind holder expression))
      (expressionText expression) := by
  intro buffer
  rw [required, run_ofExcept, requiredText_eq]
  cases requiredFault kind holder expression <;> rfl

theorem Conditional.does (conditional : Conditional) :
    Does options conditional.write (conditional.acts options) () := by
  have tested (name : String) : Does options (Conditional.write.test conditional name)
      (Conditional.acts.tested options conditional name) () :=
    (does_required options _ _ _).bind ((does_control options name).bind (does_quotedMustache options _))
  obtain ⟨kind, condition, span⟩ := conditional
  cases kind with
  | when => exact tested "if"
  | elseWhen => exact tested "elif"
  | otherwise => exact does_control options "else"

theorem does_controlWith? (name : String) (value : Option String) :
    Does options (controlWith? name value) (aliasActs options name value) () := by
  cases value with
  | none => exact .pure ()
  | some value => exact (does_control options name).bind (does_quoted options value)

theorem Loop.does (loop : Loop) (attributes : List Attribute) :
    Does options (loop.write attributes) (loop.acts options attributes) (KeySplit.ofAttributes attributes) := by
  have key : Does options (do
      controlWith? "key" (loopKey? attributes)
      return KeySplit.ofAttributes attributes) (aliasActs options "key" (loopKey? attributes) ++ [])
        (KeySplit.ofAttributes attributes) :=
    (does_controlWith? options "key" _).bind (.pure _)
  rw [List.append_nil, loopKey?_eq] at key
  rw [Loop.acts, loopKey?_eq]
  exact (does_required options _ _ (some loop.source)).bind <| (does_control options "for").bind <|
    (does_quotedMustache options _).bind <| (does_controlWith? options "for-item" _).bind <|
    (does_controlWith? options "for-index" _).bind key

theorem Directive.does (directive : Directive) : Does options directive.write directive.acts () := by
  rw [Directive.write_eq, Directive.acts]
  cases directive.boundName? with
  | none => exact .pure ()
  | some name =>
      have bound : Does options (do push " "; push name; quotedMustache (expressionText directive.expression))
          (.push " " :: .push name :: quotedMustacheActs (expressionText directive.expression)) () :=
        .push_then _ (.push_then _ (does_quotedMustache options _))
      exact (does_required options _ _ _).bind bound

theorem Attribute.does (item : Attribute) : Does options item.write item.acts () := by
  cases item with
  | plain name value span =>
      cases value with
      | none => exact .push_then _ (.push _)
      | some value => exact .push_then _ (.push_then _ (.push_then _ (.push _)))
  | directive inner => exact inner.does options

theorem does_writeAttributes (attributes : List Attribute) :
    Does options (writeAttributes attributes) (attributes.flatMap Attribute.acts) () := by
  induction attributes with
  | nil => exact .pure ()
  | cons first rest ih => exact (first.does options).bind ih

theorem StartTag.does (start : StartTag) : Does options start.write (start.acts options) () := by
  rw [StartTag.write, markupTag_name]
  obtain ⟨name, attributes, selfClosing, conditional, loop⟩ := start
  -- The rest of a start tag is one writer behind the condition, which is there or not.
  cases loop with
  | none =>
      have rest := does_writeAttributes options attributes
      cases conditional with
      | none => exact .push_then _ (.push_then _ rest)
      | some conditional => exact .push_then _ (.push_then _ ((conditional.does options).bind rest))
  | some loop =>
      have rest : Does options (do writeAttributes (← loop.write attributes).rest)
          (loop.acts options attributes ++ (remainingAttributes true attributes).flatMap Attribute.acts) () := by
        rw [← rest_ofAttributes]
        exact (loop.does options attributes).bind (does_writeAttributes options _)
      cases conditional with
      | none => exact .push_then _ (.push_then _ rest)
      | some conditional => exact .push_then _ (.push_then _ ((conditional.does options).bind rest))

theorem does_writeComment (content : String) :
    Does options (writeComment content)
      (if options.comments then [.push "<!--", .push content, .push "-->"] else []) () := by
  apply Does.read_then
  split
  · exact .push_then _ (.push_then _ (.push _))
  · exact .pure ()

mutual

theorem Element.does : ∀ element : Element, Does options element.write (element.acts options) ()
  | ⟨start, children, _⟩ => by
      rw [Element.write, markupTag_name, Element.acts]
      refine (start.does options).bind ?_
      split
      · exact .push _
      · exact .push_then _ ((does_writeNodes children).bind (.push_then _ (.push_then _ (.push _))))

theorem Node.does : ∀ node : Node, Does options node.write (node.acts options) ()
  | .element inner => by
      rw [Node.write, Node.acts]
      exact inner.does
  | .text content _ => by
      rw [Node.write, Node.acts]
      exact .push content
  | .comment content _ => by
      rw [Node.write, Node.acts]
      exact does_writeComment options content
  | .interpolation expression span => by
      rw [Node.write, Node.acts]
      exact (does_required options _ span (some expression)).bind (does_mustache options _)
  | .chain branches _ => by
      rw [Node.write, Node.acts]
      exact does_writeBranches branches
  | .branch ⟨element, _⟩ => by
      rw [Node.write, Node.acts]
      exact element.does
  | .compound _ span => by
      rw [Node.write, Node.acts]
      exact fun _ => rfl

theorem does_writeNodes : ∀ nodes : List Node, Does options (writeNodes nodes) (nodesActs options nodes) ()
  | [] => by
      rw [writeNodes, nodesActs]
      exact .pure ()
  | node :: nodes => by
      rw [writeNodes, nodesActs]
      exact node.does.bind (does_writeNodes nodes)

theorem does_writeBranches : ∀ branches : List Branch,
    Does options (writeBranches branches) (branchesActs options branches) ()
  | [] => by
      rw [writeBranches, branchesActs]
      exact .pure ()
  | ⟨element, _⟩ :: branches => by
      rw [writeBranches, branchesActs]
      exact element.does.bind (does_writeBranches branches)

end

end

/-! ## The acts of a session -/

def Step.acts (options : Options) : Step → List Act
  | .push text => [.push text]
  | .control name => controlActs options name
  | .mustache content => mustacheActs content
  | .quoted value => quotedActs value
  | .quotedMustache content => quotedMustacheActs content
  | .node tree => tree.acts options
  | .nodes trees => nodesActs options trees
  | .element tree => tree.acts options
  | .branches trees => branchesActs options trees
  | .conditional test => test.acts options
  | .attributes items => items.flatMap Attribute.acts
  | .loop inner items => inner.acts options items

theorem Does.answered {options : Options} {writer : Writer Unit} {acts : List Act} (done : Does options writer acts ()) :
    Does options (Step.write.plain writer) acts .done := by
  have answered : Does options (do writer; return Outcome.done) (acts ++ []) .done := done.bind (.pure _)
  rwa [List.append_nil] at answered

theorem Step.does (options : Options) (step : Step) :
    Does options step.write (step.acts options) step.outcome := by
  cases step with
  | push text => exact .answered (.push text)
  | control name => exact .answered (does_control options name)
  | mustache content => exact .answered (does_mustache options content)
  | quoted value => exact .answered (does_quoted options value)
  | quotedMustache content => exact .answered (does_quotedMustache options content)
  | node tree => exact .answered (tree.does options)
  | nodes trees => exact .answered (does_writeNodes options trees)
  | element tree => exact .answered (tree.does options)
  | branches trees => exact .answered (does_writeBranches options trees)
  | conditional test => exact .answered (test.does options)
  | attributes items => exact .answered (does_writeAttributes options items)
  | loop inner items =>
      have answered : Does options (do return Outcome.split (← inner.write items)) (inner.acts options items ++ [])
          (.split (KeySplit.ofAttributes items)) :=
        (inner.does options items).bind (.pure _)
      rwa [List.append_nil] at answered

/-- The texts that the steps of a session push one after another, those of failed steps up to their faults. -/
def sessionPushes (options : Options) (steps : List Step) : List String :=
  steps.flatMap fun step => pushes (step.acts options)

theorem Step.run_pushes (options : Options) (step : Step) (buffer : Buffer) :
    (step.run options buffer).2 = buffer.pushAll (pushes (step.acts options)) := by
  rw [Step.run, step.does options]
  cases failure? (step.acts options) <;> rfl

theorem buffers_pushAll (options : Options) (steps : List Step) (buffer : Buffer) :
    (Step.runAll options buffer steps).map Prod.snd =
      (List.range steps.length).map fun n => buffer.pushAll (sessionPushes options (steps.take (n + 1))) := by
  induction steps generalizing buffer with
  | nil => rfl
  | cons step steps ih =>
      have behind (n : Nat) : sessionPushes options ((step :: steps).take (n + 1)) =
          pushes (step.acts options) ++ sessionPushes options (steps.take n) :=
        List.flatMap_cons
      rw [Step.runAll, List.map_cons, ih, step.run_pushes, List.length_cons, List.range_succ_eq_map, List.map_cons,
        List.map_map, behind]
      simp only [Function.comp_def, behind, Buffer.pushAll_append]
      rfl

/-! ## Buffers of pushed texts -/

/-- The bytes of a buffer are UTF-8, and `text` is what they encode and what is read from them. -/
structure Buffer.Holds (buffer : Buffer) (text : String) : Prop where
  valid : buffer.bytes.IsValidUTF8
  decoded : String.fromUTF8? buffer.bytes = some text
  encoded : text.toUTF8 = buffer.bytes
  read : buffer.text = text

theorem Buffer.holds_ofText (text : String) : (Buffer.ofText text).Holds text where
  valid := text.isValidUTF8
  decoded := by
    rw [ofText, String.fromUTF8?, String.toUTF8_eq_toByteArray, dif_pos text.isValidUTF8]
    rfl
  encoded := rfl
  read := text_ofText text

theorem Buffer.pushAll_ofText (held : String) (texts : List String) :
    (Buffer.ofText held).pushAll texts = Buffer.ofText (held ++ String.join texts) := by
  induction texts generalizing held with
  | nil => rw [String.join_nil, String.append_empty]; rfl
  | cons text texts ih =>
      have pushed : (Buffer.ofText held).pushAll (text :: texts) = (Buffer.ofText (held ++ text)).pushAll texts := by
        rw [← Buffer.push_ofText]
        rfl
      rw [pushed, ih, String.join_cons, String.append_assoc]

theorem Buffer.pushAll_empty (texts : List String) : Buffer.empty.pushAll texts = Buffer.ofText (String.join texts) := by
  rw [Buffer.empty_eq_ofText, Buffer.pushAll_ofText, String.empty_append]

theorem join_eq_empty_iff {texts : List String} : String.join texts = "" ↔ ∀ text ∈ texts, text = "" := by
  induction texts with
  | nil => simp
  | cons text texts ih => rw [String.join_cons, String.append_eq_empty_iff, ih, List.forall_mem_cons]

def Template.pushes (options : Options) (template : Template) : List String :=
  MiniMarkup.pushes (nodesActs options template.children)

theorem toMarkup_eq_pushes (template : Template) (options : Options) :
    template.toMarkup options = match failure? (nodesActs options template.children) with
      | none => .ok (String.join (template.pushes options))
      | some fault => .error fault := by
  rw [Template.toMarkup, does_writeNodes options template.children]
  cases failure? (nodesActs options template.children) with
  | none =>
      have read := Buffer.text_ofText (String.join (template.pushes options))
      rw [← Buffer.pushAll_empty] at read
      exact congrArg Except.ok read
  | some fault => rfl

theorem eq_join_pushes_of_toMarkup {template : Template} {options : Options} {code : String}
    (written : template.toMarkup options = .ok code) : code = String.join (template.pushes options) := by
  rw [toMarkup_eq_pushes] at written
  split at written
  · exact (Except.ok.inj written).symm
  · cases written

/-! ## The statement -/

theorem pushes_stay_utf8 (options : Options) (steps : List Step) :
    (Step.runAll options .empty steps).map Prod.snd = (List.range steps.length).map (fun n =>
      Buffer.empty.pushAll (sessionPushes options (steps.take (n + 1)))) ∧
    (∀ n, (Buffer.empty.pushAll ((sessionPushes options steps).take n)).Holds
      (String.join ((sessionPushes options steps).take n))) ∧
    ∀ (template : Template) code, template.toMarkup options = .ok code →
      code = String.join (template.pushes options) ∧
      (code = "" ↔ ∀ text ∈ template.pushes options, text = "") := by
  refine ⟨buffers_pushAll options steps .empty, ?_, ?_⟩
  · intro n
    rw [Buffer.pushAll_empty]
    exact Buffer.holds_ofText _
  · intro template code written
    obtain rfl := eq_join_pushes_of_toMarkup written
    exact ⟨rfl, join_eq_empty_iff⟩

/-- A template with nothing to push but an empty text, as its comment is held back. -/
def hushed : Template where
  children := [.text "" .nowhere, .comment "日" .nowhere]

theorem pushes_stay_utf8_foreignPrefix :
    let options : Options := { customPrefix := some "微:" }
    let steps : List Step :=
      [.push "é", .node (.interpolation (.simple "\u3000" false .nowhere) .nowhere), .control "if"]
    (Step.runAll options .empty steps).map Prod.snd = [.ofText "é", .ofText "é", .ofText "é 微:if"] ∧
    (Buffer.ofText "é 微:").Holds "é 微:" ∧
    hushed.toMarkup options = .ok "" ∧ ∀ text ∈ hushed.pushes options, text = "" := by
  intro options steps
  obtain ⟨behind, moments, complete⟩ := pushes_stay_utf8 options steps
  have written : hushed.toMarkup options = .ok "" := by
    rw [toMarkup_eq_pushes]
    rfl
  have third := moments 3
  rw [Buffer.pushAll_empty] at third
  simp only [Buffer.pushAll_empty] at behind
  exact ⟨behind, third, written, (complete hushed "" written).2.1 rfl⟩

end MiniMarkup
