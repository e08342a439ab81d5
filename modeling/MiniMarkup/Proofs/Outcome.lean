import MiniMarkup.Proofs.Denotation
import MiniMarkup.Proofs.Faults

/-!
# The outcome of writing a tree

A tree without faults is written as its markup, behind what the buffer holds already. Of a tree with faults
the first is reported (`run_writeNodes`).
-/

namespace MiniMarkup

theorem run_writeNodes (nodes : List Node) (options : Options) (buffer : Buffer) :
    writeNodes nodes options buffer = match (nodesFaults nodes).head? with
      | none => .ok () (buffer.push (nodesMarkup options nodes))
      | some fault => .error fault (buffer.push (eventMarkup options (faultless (nodesEvents nodes)))) := by
  have run := run_performAll (nodesEvents nodes) options buffer
  rw [← nodesFaults_eq, ← nodesMarkup_eq] at run
  rw [writeNodes_performs]
  exact run

theorem Element.run_write (element : Element) (options : Options) (buffer : Buffer) :
    element.write options buffer = match element.faults.head? with
      | none => .ok () (buffer.push (element.markup options))
      | some fault => .error fault (buffer.push (eventMarkup options (faultless element.events))) := by
  have run := run_performAll element.events options buffer
  rw [← element.faults_eq, ← Element.markup_eq] at run
  rw [element.write_performs]
  exact run

theorem Element.write_eq_ok_iff {element : Element} {options : Options} {buffer after : Buffer} :
    element.write options buffer = .ok () after ↔
      element.faults = [] ∧ after = buffer.push (element.markup options) := by
  rw [element.run_write]
  cases element.faults with
  | nil => simp [eq_comm]
  | cons fault faults => simp

theorem writeNodes_eq_ok_iff {nodes : List Node} {options : Options} {buffer after : Buffer} :
    writeNodes nodes options buffer = .ok () after ↔
      nodesFaults nodes = [] ∧ after = buffer.push (nodesMarkup options nodes) := by
  rw [run_writeNodes]
  cases nodesFaults nodes with
  | nil => simp [eq_comm]
  | cons fault faults => simp

theorem writeNodes_eq_error_iff {nodes : List Node} {options : Options} {buffer after : Buffer} {fault : Fault} :
    writeNodes nodes options buffer = .error fault after ↔
      (nodesFaults nodes).head? = some fault ∧
        after = buffer.push (eventMarkup options (faultless (nodesEvents nodes))) := by
  rw [run_writeNodes]
  cases nodesFaults nodes with
  | nil => simp
  | cons first faults => simp [eq_comm]

theorem text_empty_push (text : String) : (Buffer.empty.push text).text = text := by
  rw [Buffer.empty_eq_ofText, Buffer.push_ofText, String.empty_append, Buffer.text_ofText]

theorem toMarkup_eq (template : Template) (options : Options) :
    template.toMarkup options = match (nodesFaults template.children).head? with
      | none => .ok (nodesMarkup options template.children)
      | some fault => .error fault := by
  rw [Template.toMarkup, run_writeNodes]
  cases (nodesFaults template.children).head? with
  | none => simp only [text_empty_push]
  | some fault => rfl

theorem toMarkup_eq_ok_iff {template : Template} {options : Options} {code : String} :
    template.toMarkup options = .ok code ↔
      nodesFaults template.children = [] ∧ code = nodesMarkup options template.children := by
  rw [toMarkup_eq]
  cases nodesFaults template.children with
  | nil => simp [eq_comm]
  | cons fault faults => simp

theorem toMarkup_eq_error_iff {template : Template} {options : Options} {fault : Fault} :
    template.toMarkup options = .error fault ↔ (nodesFaults template.children).head? = some fault := by
  rw [toMarkup_eq]
  cases nodesFaults template.children with
  | nil => simp
  | cons first faults => simp

/-! ## What a run leaves -/

theorem faultless_append {before : List Event} (sound : eventFaults before = []) (behind : List Event) :
    faultless (before ++ behind) = before ++ faultless behind := by
  have none : ∀ event ∈ before, event.fault.isNone = true := by
    intro event member
    rw [Option.isNone_iff_eq_none]
    exact List.filterMap_eq_nil_iff.1 sound event member
  rw [faultless, List.takeWhile_append_of_pos none]
  rfl

theorem faultless_of_sound {events : List Event} (sound : eventFaults events = []) : faultless events = events := by
  have all := faultless_append sound []
  rwa [List.append_nil, show faultless [] = [] from rfl, List.append_nil] at all

def bufferLeft (writer : Writer Unit) (options : Options) (buffer : Buffer) : Buffer :=
  match writer options buffer with
  | .ok _ after | .error _ after => after

theorem bufferLeft_writeNodes (nodes : List Node) (options : Options) (buffer : Buffer) :
    bufferLeft (writeNodes nodes) options buffer =
      buffer.push (eventMarkup options (faultless (nodesEvents nodes))) := by
  rw [bufferLeft, writeNodes_performs, run_performAll]
  cases sound : eventFaults (nodesEvents nodes) with
  | nil => rw [faultless_of_sound sound]; rfl
  | cons fault faults => rfl

/-! ## The statements -/

theorem writes_denotation (options : Options) :
    (∀ (template : Template) (code : String), template.toMarkup options = .ok code ↔
      nodesFaults template.children = [] ∧ code = nodesMarkup options template.children) ∧
    ∀ (nodes : List Node) (buffer after : Buffer), writeNodes nodes options buffer = .ok () after ↔
      nodesFaults nodes = [] ∧ after = buffer.push (nodesMarkup options nodes) :=
  ⟨fun _ _ => toMarkup_eq_ok_iff, fun _ _ _ => writeNodes_eq_ok_iff⟩

theorem reports_first_fault (template : Template) (options : Options) :
    ((∃ fault, template.toMarkup options = .error fault) ↔ nodesFaults template.children ≠ []) ∧
    ∀ fault, template.toMarkup options = .error fault ↔ (nodesFaults template.children).head? = some fault := by
  refine ⟨?_, fun fault => toMarkup_eq_error_iff⟩
  simp only [toMarkup_eq_error_iff]
  cases nodesFaults template.children with
  | nil => simp
  | cons first faults => simp

end MiniMarkup
