import WorkerMemory.Worker

/-! # The process table -/

namespace WorkerMemory

/-- A listed process with its parent. -/
structure Link where
  pid : Pid
  parent : Option Pid
  deriving DecidableEq, Repr

/-- One view of all processes. A process may be listed twice, parents may be missing, and parent
links may form a cycle when a pid is reused while the table is read. -/
structure ProcessTable where
  links : List Link
  deriving DecidableEq, Repr

namespace ProcessTable

def contains (table : ProcessTable) (pid : Pid) : Bool := table.links.any (·.pid == pid)

/-- The number of processes, however often each is listed. -/
def size (table : ProcessTable) : Nat := (table.links.map (·.pid)).eraseDups.length

/-- Whether a signal could be sent to the process. Only positive ids of 32 bits name one. -/
def isAlive (table : ProcessTable) (pid : Pid) : Bool :=
  0 < pid && pid ≤ 0x7FFFFFFF && table.contains pid

/-! ## The walk down from a root -/

/-- The children of `parent` in the order of the links, each once. -/
def childrenIn (links : List Link) (parent : Pid) : List Pid :=
  ((links.filter (·.parent == some parent)).map (·.pid)).eraseDups

/-- The links to processes other than those found. -/
def without (links : List Link) (found : List Pid) : List Link :=
  links.filter fun l => !found.contains l.pid

theorem length_eraseDups_le (l : List Pid) : l.eraseDups.length ≤ l.length := by
  induction h : l.length using Nat.strongRecOn generalizing l with
  | ind n ih =>
    cases l with
    | nil => simp
    | cons a l =>
      rw [List.eraseDups_cons]
      have hle := List.length_filter_le (fun b => !b == a) l
      simp only [List.length_cons] at h ⊢
      exact Nat.le_trans (Nat.succ_le_succ (ih _ (by omega) _ rfl)) (by omega)

/-- Every child found takes at least one link with it. -/
theorem length_without_childrenIn (links : List Link) (parent : Pid) :
    (without links (childrenIn links parent)).length + (childrenIn links parent).length
      ≤ links.length := by
  have hsplit := List.length_eq_countP_add_countP (l := links) (fun l => l.parent == some parent)
  have hchild : (childrenIn links parent).length ≤
      links.countP (fun l : Link => l.parent == some parent) := by
    rw [List.countP_eq_length_filter, childrenIn]
    exact Nat.le_trans (length_eraseDups_le _) (by simp)
  have hrest : (without links (childrenIn links parent)).length ≤
      links.countP (fun l : Link => !(l.parent == some parent)) := by
    rw [without, ← List.countP_eq_length_filter]
    apply List.countP_mono_left
    intro l hl hout
    simp only [Bool.not_eq_true', childrenIn] at hout ⊢
    rw [← Bool.not_eq_true] at hout ⊢
    intro hp
    exact hout (by simpa using ⟨l, ⟨hl, by simpa using hp⟩, rfl⟩)
  simp only [Bool.not_eq_true, Bool.decide_eq_false] at hsplit
  omega

/-- Visits the queue in order and puts the children not seen before at its end. `links` are those
to processes not seen yet, so that each round uses up a queue entry or a link. -/
def walk (links : List Link) : (queue : List Pid) → List Pid
  | [] => []
  | parent :: queue =>
    let found := childrenIn links parent
    found ++ walk (without links found) (queue ++ found)
termination_by queue => links.length + queue.length
decreasing_by
  have := length_without_childrenIn links parent
  simp only [List.length_append, List.length_cons]
  omega

/-- All processes below `root`, nearest first and without `root` itself. -/
def descendants (table : ProcessTable) (root : Pid) : List Pid :=
  walk (without table.links [root]) [root]

end ProcessTable

end WorkerMemory
