import CiPipeline.Pipeline.Basic

/-!
# Place — where a node stands in the tree of a pipeline

* `Pipeline.Place`: a stage, a job or a command, by the indices on the way down to it;
* `Pipeline.job?`, `Pipeline.command?`, `Pipeline.state?`: what stands at a place;
* `Pipeline.commands`: the commands, depth first and from left to right;
* `Pipeline.placedCommands`: the same with their places.
-/

namespace CiPipeline

def Stage.commands (stage : Stage) : List Command := stage.jobs.flatMap Job.commands

namespace Pipeline

inductive Place where
  | stage (i : Nat)
  | job (i j : Nat)
  | command (i j k : Nat)
deriving DecidableEq, Repr

/-! ## What stands at a place -/

def job? (p : Pipeline) (i j : Nat) : Option Job := p.stages[i]?.bind fun stage => stage.jobs[j]?

def command? (p : Pipeline) (i j k : Nat) : Option Command :=
  (p.job? i j).bind fun job => job.commands[k]?

def state? (p : Pipeline) : Place → Option State
  | .stage i => p.stages[i]?.map Stage.state
  | .job i j => (p.job? i j).map Job.state
  | .command i j k => (p.command? i j k).map Command.state

/-! ## The commands in order -/

def commands (p : Pipeline) : List Command := p.stages.flatMap Stage.commands

def placedCommands (p : Pipeline) : List (Place × Command) :=
  p.stages.zipIdx.flatMap fun stage =>
    stage.1.jobs.zipIdx.flatMap fun job =>
      job.1.commands.zipIdx.map fun c => (.command stage.2 job.2 c.2, c.1)

theorem mem_placedCommands {p : Pipeline} {place : Place} {c : Command} :
    (place, c) ∈ p.placedCommands ↔
      ∃ i j k, place = .command i j k ∧ p.command? i j k = some c := by
  simp only [placedCommands, List.mem_flatMap, List.mem_map, List.mem_zipIdx_iff_getElem?,
    Prod.mk.injEq, command?, job?, Option.bind_eq_some_iff]
  constructor
  · rintro ⟨⟨stage, i⟩, at_i, ⟨job, j⟩, at_j, ⟨c, k⟩, at_k, rfl, rfl⟩
    exact ⟨i, j, k, rfl, job, ⟨stage, at_i, at_j⟩, at_k⟩
  · rintro ⟨i, j, k, rfl, job, ⟨stage, at_i, at_j⟩, at_k⟩
    exact ⟨(stage, i), at_i, (job, j), at_j, (c, k), at_k, rfl, rfl⟩

/-- Indices that a function does not read may be left out. -/
theorem flatMap_zipIdx {α β : Type} (as : List α) (f : α → List β) :
    (as.zipIdx.flatMap fun a => f a.1) = as.flatMap f := by
  rw [← List.flatMap_map Prod.fst, List.zipIdx_map_fst]

theorem map_snd_placedCommands (p : Pipeline) : p.placedCommands.map Prod.snd = p.commands := by
  simp only [placedCommands, commands, List.map_flatMap, List.map_map,
    Function.comp_def, List.zipIdx_map_fst]
  rw [← flatMap_zipIdx p.stages]
  congr 1
  funext stage
  exact flatMap_zipIdx stage.1.jobs Job.commands

/-- The commands of a pipeline are those that stand at its places. -/
theorem mem_commands {p : Pipeline} {c : Command} :
    c ∈ p.commands ↔ ∃ i j k, p.command? i j k = some c := by
  rw [← map_snd_placedCommands, List.mem_map]
  constructor
  · rintro ⟨⟨place, c⟩, mem, rfl⟩
    rcases mem_placedCommands.1 mem with ⟨i, j, k, _, found⟩
    exact ⟨i, j, k, found⟩
  · rintro ⟨i, j, k, found⟩
    exact ⟨(.command i j k, c), mem_placedCommands.2 ⟨i, j, k, rfl, found⟩, rfl⟩

end Pipeline
end CiPipeline
