import WorkerMemory.Proofs.Registry.Lawful

/-! # What the handles of a registry do to it -/

namespace WorkerMemory.Registry

/-- The operations that can change a registry. -/
inductive Operation where
  | register (w : Worker)
  | clear
  | prune (stale : List Worker)
  deriving DecidableEq, Repr

namespace Operation

variable {σ : Type} [WorkerStore σ]

def apply : Operation → σ → σ
  | register w, store => (Registry.register w store).2
  | clear, store => WorkerStore.clear store
  | prune stale, store => (Registry.prune stale store).2

def applyAll (ops : List Operation) (store : σ) : σ :=
  ops.foldl (fun store op => op.apply store) store

theorem applyAll_nil (store : σ) : applyAll [] store = store := rfl

theorem applyAll_append (before after : List Operation) (store : σ) :
    applyAll (before ++ after) store = applyAll after (applyAll before store) :=
  List.foldl_append

theorem applyAll_cons (op : Operation) (ops : List Operation) (store : σ) :
    applyAll (op :: ops) store = applyAll ops (op.apply store) := rfl

/-- Takes `w` out if it is there. -/
def Drops (w : Worker) : Operation → Prop
  | register _ => False
  | clear => True
  | prune stale => w ∈ stale

variable [LawfulStore σ]

theorem get?_apply {op : Operation} {w : Worker} {store : σ}
    (h : WorkerStore.get? w.id store = some w) :
    WorkerStore.get? w.id (op.apply store) = some w ↔ ¬ op.Drops w := by
  cases op with
  | register v => simp [apply, Drops, get?_register, h]
  | clear => simp [apply, Drops]
  | prune stale => simp [apply, Drops, get?_prune, h, Option.filter_some]

theorem unreplaced {op : Operation} {id : WorkerId} {old new : Worker} {store : σ}
    (hold : WorkerStore.get? id store = some old)
    (hnew : WorkerStore.get? id (op.apply store) = some new) : new = old := by
  cases op with
  | register v =>
    rw [apply, get?_register, hold] at hnew
    exact (Option.some.inj hnew).symm
  | clear =>
    rw [apply, get?_clear] at hnew
    contradiction
  | prune stale =>
    rw [apply, get?_prune, hold, Option.filter_eq_some_iff] at hnew
    exact (Option.some.inj hnew.1).symm

theorem get?_applyAll {ops : List Operation} {w : Worker} {store : σ}
    (h : WorkerStore.get? w.id store = some w) (kept : ∀ op ∈ ops, ¬ op.Drops w) :
    WorkerStore.get? w.id (applyAll ops store) = some w := by
  induction ops generalizing store with
  | nil => exact h
  | cons op ops ih =>
    rw [applyAll_cons]
    apply ih
    · exact (get?_apply h).mpr (kept op List.mem_cons_self)
    · exact fun op' h' => kept op' (List.mem_cons_of_mem _ h')

end Operation

end WorkerMemory.Registry
