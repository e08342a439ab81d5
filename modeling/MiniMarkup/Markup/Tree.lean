import MiniMarkup.Markup.StartTag

/-! # Markup of template trees

Nodes are written in document order, each element around its children. -/

namespace MiniMarkup
open Writer

def writeComment (content : String) : Writer Unit := do
  if (← read).comments then
    push "<!--"
    push content
    push "-->"

def writeInterpolation (expression : Expression) (span : Span) : Writer Unit := do
  let content ← required .missingInterpolation span expression
  mustache content

mutual

def Element.write : Element → Writer Unit
  | ⟨start, children, _⟩ => do
      start.write
      if start.selfClosing then
        push "/>"
      else
        push ">"
        writeNodes children
        push "</"
        push (markupTag start.name)
        push ">"

/-- A compound node belongs to another output and has no markup. -/
def Node.write : Node → Writer Unit
  | .element inner => inner.write
  | .text content _ => push content
  | .comment content _ => writeComment content
  | .interpolation expression span => writeInterpolation expression span
  | .chain branches _ => writeBranches branches
  | .branch ⟨element, _⟩ => element.write
  | .compound _ span => throw (.of (.node .compound) span)

def writeNodes : List Node → Writer Unit
  | [] => pure ()
  | node :: nodes => do
      node.write
      writeNodes nodes

/-- Each branch of a chain stands as an element of its own. -/
def writeBranches : List Branch → Writer Unit
  | [] => pure ()
  | ⟨element, _⟩ :: branches => do
      element.write
      writeBranches branches

end

theorem writeNodes_append (before behind : List Node) :
    writeNodes (before ++ behind) = (do writeNodes before; writeNodes behind) := by
  induction before with
  | nil => simp [writeNodes]
  | cons node nodes ih => simp [writeNodes, ih]

/-- The markup of a template, or the first fault in it. -/
def Template.toMarkup (template : Template) (options : Options) : Except Fault String :=
  match writeNodes template.children options .empty with
  | .ok _ buffer => .ok buffer.text
  | .error fault _ => .error fault

end MiniMarkup
