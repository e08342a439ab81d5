import MiniMarkup.Markup.Session
import MiniMarkup.Proofs.Events

/-!
# Sessions and fresh buffers

A step performs events that do not depend on the buffer. It answers as on a fresh buffer and puts what it
leaves there behind what is held already (`Step.run_fresh`). A session joins the fresh buffers of its steps.
-/

namespace MiniMarkup
open Writer

/-! ## Buffers behind buffers -/

namespace Buffer

def append (before behind : Buffer) : Buffer :=
  ⟨before.bytes ++ behind.bytes⟩

def join (buffers : List Buffer) : Buffer :=
  buffers.foldr append empty

theorem append_empty (buffer : Buffer) : buffer.append empty = buffer := by
  ext1
  exact ByteArray.append_empty

theorem append_assoc (first second third : Buffer) :
    (first.append second).append third = first.append (second.append third) := by
  ext1
  exact ByteArray.append_assoc

theorem push_eq_append (buffer : Buffer) (text : String) : buffer.push text = buffer.append (empty.push text) := by
  ext1
  simp [push, append, empty]

theorem append_join (buffer : Buffer) (buffers : List Buffer) :
    buffer.append (join buffers) = buffers.foldl append buffer := by
  induction buffers generalizing buffer with
  | nil => exact append_empty buffer
  | cons first rest ih =>
      rw [List.foldl_cons, ← ih, append_assoc]
      rfl

end Buffer

/-! ## Steps as events -/

def Step.events : Step → List Event
  | .push text => [⟨.verbatim text, none⟩]
  | .control name => [⟨.control name "", none⟩]
  | .mustache content => [⟨.verbatim (mustacheText content), none⟩]
  | .quoted value => [⟨.verbatim (quotedText value), none⟩]
  | .quotedMustache content => [⟨.verbatim (quotedText (mustacheText content)), none⟩]
  | .node tree => tree.events
  | .nodes trees => nodesEvents trees
  | .element tree => tree.events
  | .branches trees => branchesEvents trees
  | .conditional test => test.events
  | .attributes items => items.flatMap Attribute.events
  | .loop inner items => inner.events items

def Step.outcome : Step → Outcome
  | .loop _ items => .split (KeySplit.ofAttributes items)
  | _ => .done

theorem perform_quoted (value : String) : Event.perform ⟨.verbatim (quotedText value), none⟩ = quoted value := by
  funext options buffer
  simp [run_perform, run_quoted, Piece.markup, quotedText]

theorem perform_quotedMustache (content : String) :
    Event.perform ⟨.verbatim (quotedText (mustacheText content)), none⟩ = quotedMustache content := by
  funext options buffer
  simp [run_perform, run_quotedMustache, Piece.markup, quotedText, mustacheText]

theorem Step.write_performs (step : Step) : step.write = (do performAll step.events; return step.outcome) := by
  cases step with
  | push text => rw [Step.events, performAll_singleton, perform_verbatim]; rfl
  | control name => rw [Step.events, performAll_singleton, perform_control]; rfl
  | mustache content => rw [Step.events, performAll_singleton, perform_mustache]; rfl
  | quoted value => rw [Step.events, performAll_singleton, perform_quoted]; rfl
  | quotedMustache content => rw [Step.events, performAll_singleton, perform_quotedMustache]; rfl
  | node tree => rw [Step.events, ← tree.write_performs]; rfl
  | nodes trees => rw [Step.events, ← writeNodes_performs]; rfl
  | element tree => rw [Step.events, ← tree.write_performs]; rfl
  | branches trees => rw [Step.events, ← writeBranches_performs]; rfl
  | conditional test => rw [Step.events, ← test.write_performs]; rfl
  | attributes items => rw [Step.events, ← writeAttributes_performs]; rfl
  | loop inner items =>
      rw [Step.write, inner.write_performs, bind_assoc]
      rfl

/-! ## Steps behind a buffer -/

def Step.fresh (options : Options) (step : Step) : Except Fault Outcome × Buffer :=
  step.run options .empty

/-- The buffer is no part of what a step answers and writes. -/
theorem Step.run_blind (step : Step) (options : Options) :
    ∃ answer written, ∀ buffer, step.run options buffer = (answer, buffer.push written) := by
  cases reported : (eventFaults step.events).head? with
  | none =>
      refine ⟨.ok step.outcome, eventMarkup options step.events, fun buffer => ?_⟩
      rw [Step.run, Step.write_performs, run_bind, run_performAll, reported]
      rfl
  | some fault =>
      refine ⟨.error fault, eventMarkup options (faultless step.events), fun buffer => ?_⟩
      rw [Step.run, Step.write_performs, run_bind, run_performAll, reported]

theorem Step.run_fresh (step : Step) (options : Options) (buffer : Buffer) :
    step.run options buffer = ((step.fresh options).1, buffer.append (step.fresh options).2) := by
  obtain ⟨answer, written, run⟩ := step.run_blind options
  rw [Step.fresh, run buffer, run .empty, Buffer.push_eq_append]

/-! ## Runs of steps -/

def Step.bufferBehind (options : Options) (buffer : Buffer) (steps : List Step) : Buffer :=
  ((Step.runAll options buffer steps).map Prod.snd).getLastD buffer

section
variable (options : Options) (buffer : Buffer)

theorem answers_runAll (steps : List Step) :
    (Step.runAll options buffer steps).map Prod.fst = steps.map fun step => (step.fresh options).1 := by
  induction steps generalizing buffer with
  | nil => rfl
  | cons step steps ih =>
      rw [Step.runAll, List.map_cons, List.map_cons, ih, step.run_fresh]

theorem buffers_runAll (steps : List Step) :
    buffer :: (Step.runAll options buffer steps).map Prod.snd =
      (steps.map fun step => (step.fresh options).2).scanl Buffer.append buffer := by
  induction steps generalizing buffer with
  | nil => rfl
  | cons step steps ih =>
      rw [Step.runAll, List.map_cons, List.map_cons, List.scanl_cons, ih, step.run_fresh]

theorem bufferBehind_eq (steps : List Step) :
    Step.bufferBehind options buffer steps =
      buffer.append (Buffer.join (steps.map fun step => (step.fresh options).2)) := by
  have last := congrArg List.getLast? (buffers_runAll options buffer steps)
  rw [List.getLast?_cons, List.getLast?_scanl, Option.some_inj] at last
  rw [Step.bufferBehind, List.getLastD_eq_getLast?, last, Buffer.append_join]

end

theorem run_writeNodes_append (before behind : List Node) (options : Options) (buffer : Buffer) :
    writeNodes (before ++ behind) options buffer = match writeNodes before options buffer with
      | .ok _ after => writeNodes behind options after
      | .error fault after => .error fault after := by
  rw [writeNodes_append, run_bind]
  cases writeNodes before options buffer <;> rfl

/-! ## The statement -/

theorem session_joins_fresh_buffers (options : Options) (buffer : Buffer) (steps : List Step) :
    (Step.runAll options buffer steps).map Prod.fst = steps.map (fun step => (step.fresh options).1) ∧
    buffer :: (Step.runAll options buffer steps).map Prod.snd =
      (steps.map fun step => (step.fresh options).2).scanl Buffer.append buffer ∧
    Step.bufferBehind options buffer steps =
      buffer.append (Buffer.join (steps.map fun step => (step.fresh options).2)) ∧
    (∀ before step behind, ((Step.runAll options buffer (before ++ step :: behind)).map Prod.fst).drop (before.length + 1) =
      ((Step.runAll options buffer (before ++ behind)).map Prod.fst).drop before.length) ∧
    (∀ step held, ∃ written : String, (Step.run step options held).2 = held.push written) ∧
    ∀ before behind : List Node, writeNodes (before ++ behind) options buffer =
      match writeNodes before options buffer with
      | .ok _ after => writeNodes behind options after
      | .error fault after => .error fault after := by
  refine ⟨answers_runAll options buffer steps, buffers_runAll options buffer steps, bufferBehind_eq options buffer steps,
    ?_, ?_, fun before behind => run_writeNodes_append before behind _ _⟩
  · intro before step behind
    rw [answers_runAll, answers_runAll]
    simp [List.drop_append]
  · intro step held
    obtain ⟨answer, written, run⟩ := step.run_blind options
    exact ⟨written, by rw [run held]⟩

end MiniMarkup
