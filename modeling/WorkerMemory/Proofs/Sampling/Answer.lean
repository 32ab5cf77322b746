import WorkerMemory.Proofs.Sampling.Row
import WorkerMemory.Sampling

/-! # What `ps` answers to one sampling

There is one run at most, and what is read is what this run says.
-/

namespace WorkerMemory

theorem Script.exec_congr {α : Type} {ps ps' : Ps} {script : Script α}
    (same : ∀ args ∈ (script.exec ps).2, ps' args = ps args) :
    script.exec ps' = script.exec ps := by
  induction script with
  | done result => rfl
  | run args next ih =>
    simp only [exec, List.forall_mem_cons] at same
    simp only [exec, same.1, ih _ same.2]

/-- The last row of each process, or that `ps` could not be run and there is no memory. -/
def Sampling.Shows (program : String) (s : Sampling) : PsRun → Prop
  | .failed cause => s.failure = some (.spawn program cause) ∧ s.memory = ∅
  | .finished _ output =>
    s.failure = none ∧ ∀ p : Pid, s.memory[p]? = Row.lastKb? (Row.afterFirst output) p

namespace Sampler

variable {sampler : Sampler} {ps ps' : Ps} {pids : List Pid} {args : List String}

theorem sample_of_none (unasked : Request.on sampler.platform pids = none) :
    sampler.sample ps pids = {} := by
  simp only [sample, script, unasked, Script.exec]

theorem sample_of_some (asked : Request.on sampler.platform pids = some args) :
    sampler.sample ps pids = { sampler.ofRun pids (ps args) with asked := #[args] } := by
  simp only [sample, script, asked, Script.exec]

theorem asked_sample :
    (sampler.sample ps pids).asked.toList = (Request.on sampler.platform pids).toList := by
  cases h : Request.on sampler.platform pids with
  | none => rw [sample_of_none h]; rfl
  | some args => rw [sample_of_some h]; rfl

theorem sample_congr (same : ∀ args ∈ (sampler.sample ps pids).asked.toList, ps' args = ps args) :
    sampler.sample ps' pids = sampler.sample ps pids := by
  unfold sample
  rw [Script.exec_congr same]

theorem shows_sample (ps : Ps) (asked : Request.on sampler.platform pids = some args) :
    (sampler.sample ps pids).Shows sampler.program (ps args) := by
  rw [sample_of_some asked]
  cases ps args with
  | failed cause => exact ⟨rfl, rfl⟩
  | finished status output => exact ⟨rfl, fun p => Row.getElem?_samples output p⟩

end Sampler

end WorkerMemory
