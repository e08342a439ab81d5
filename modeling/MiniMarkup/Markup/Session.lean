import MiniMarkup.Markup.Tree

/-! # Sessions

A session runs writing steps one after another on one buffer. A step that fails leaves what it wrote. -/

namespace MiniMarkup

inductive Step where
  | push (text : String)
  | control (name : String)
  | mustache (content : String)
  | quoted (value : String)
  | quotedMustache (content : String)
  | node (tree : Node)
  | nodes (trees : List Node)
  | element (tree : Element)
  | branches (trees : List Branch)
  | conditional (test : Conditional)
  | attributes (items : List Attribute)
  | loop (inner : Loop) (items : List Attribute)

/-- What a step answers when it succeeds. -/
inductive Outcome where
  | done
  | split (key : KeySplit)

namespace Step

def write : Step → Writer Outcome
  | .push text => plain (.push text)
  | .control name => plain (.control name)
  | .mustache content => plain (.mustache content)
  | .quoted value => plain (.quoted value)
  | .quotedMustache content => plain (.quotedMustache content)
  | .node tree => plain tree.write
  | .nodes trees => plain (writeNodes trees)
  | .element tree => plain tree.write
  | .branches trees => plain (writeBranches trees)
  | .conditional test => plain test.write
  | .attributes items => plain (writeAttributes items)
  | .loop inner items => return .split (← inner.write items)
where
  plain (writer : Writer Unit) : Writer Outcome := do
    writer
    return .done

/-- The answer of a step and the buffer behind it. -/
def run (step : Step) (options : Options) (buffer : Buffer) : Except Fault Outcome × Buffer :=
  match step.write options buffer with
  | .ok outcome buffer => (.ok outcome, buffer)
  | .error fault buffer => (.error fault, buffer)

/-- The answers of all steps, each with the buffer behind it. -/
def runAll (options : Options) (buffer : Buffer) : List Step → List (Except Fault Outcome × Buffer)
  | [] => []
  | step :: steps =>
      let result := step.run options buffer
      result :: runAll options result.2 steps

end Step

end MiniMarkup
