import WorkerMemory.Proofs.Registry.Directory

/-! # Handles that share stores

A clone of a handle holds the same store, so all see what any of them changes. How the stores keep
their workers makes no difference to this.
-/

namespace WorkerMemory

/-- Stores, and for each handle the number of the store that it holds. -/
structure Handles (τ : Type) where
  stores : List τ
  held : List Nat

inductive Command where
  | ask (handle : Nat) (r : Request)
  /-- A clone of a handle, or a new registry on its store. -/
  | share (handle : Nat)
  /-- A handle on a store of its own. -/
  | fresh

namespace Handles

variable {τ α : Type}

/-- One handle, on an empty store. -/
def start (empty : τ) : Handles τ := { stores := [empty], held := [0] }

/-- The store that a handle holds, with its number. -/
def find? (s : Handles τ) (handle : Nat) : Option (Nat × τ) :=
  s.held[handle]?.bind fun n => s.stores[n]?.map (n, ·)

variable (empty : τ) (serve : τ → Request → α × τ)

/-- There is an answer if a handle is asked, and there is such a handle. -/
def step (s : Handles τ) : Command → Option α × Handles τ
  | .ask handle r => match s.find? handle with
    | none => (none, s)
    | some (n, store) =>
      let (answer, store) := serve store r
      (some answer, { s with stores := s.stores.set n store })
  | .share handle => (none, { s with held := s.held ++ s.held[handle]?.toList })
  | .fresh => (none, { stores := s.stores ++ [empty], held := s.held ++ [s.stores.length] })

def run (s : Handles τ) : List Command → List (Option α) × Handles τ
  | [] => ([], s)
  | c :: commands =>
    let (answer, s) := step empty serve s c
    let (answers, s) := run s commands
    (answer :: answers, s)

/-! ## The same handles on other stores -/

variable {τ' α' : Type}

def map (f : τ → τ') (s : Handles τ) : Handles τ' := { s with stores := s.stores.map f }

theorem find?_map (f : τ → τ') (s : Handles τ) (handle : Nat) :
    (s.map f).find? handle = (s.find? handle).map fun (n, store) => (n, f store) := by
  unfold find? map
  simp only [List.getElem?_map, Option.map_bind, Option.map_map, Function.comp_def]

variable {empty serve} {empty' : τ'} {serve' : τ' → Request → α' × τ'} {f : τ → τ'} {g : α → α'}
  (hempty : f empty = empty')
  (hserve : ∀ store r, serve' (f store) r = (g (serve store r).1, f (serve store r).2))

include hempty hserve

theorem step_map (s : Handles τ) (c : Command) :
    step empty' serve' (s.map f) c =
      ((step empty serve s c).1.map g, (step empty serve s c).2.map f) := by
  cases c with
  | ask handle r =>
    simp only [step, find?_map]
    cases s.find? handle with
    | none => rfl
    | some held => simp [hserve, map, List.map_set]
  | share handle => rfl
  | fresh => simp [step, map, ← hempty]

theorem run_map (s : Handles τ) (commands : List Command) :
    run empty' serve' (s.map f) commands =
      ((run empty serve s commands).1.map (·.map g), (run empty serve s commands).2.map f) := by
  induction commands generalizing s with
  | nil => rfl
  | cons c commands ih =>
    simp only [run, step_map hempty hserve, ih]
    rfl

end Handles

end WorkerMemory
