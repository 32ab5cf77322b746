import WorkerMemory.Text.Reader

/-! # What a reader takes from a text

Laws to follow a reader through a text step by step, whatever way it has of failing.
-/

namespace WorkerMemory.Text

variable {m : Type → Type} [Monad m] {α β : Type}

/-- In front of `cs` stands what the reader takes for `a`, and `rest` is left. -/
def Reads (read : StateT (List Char) m α) (cs : List Char) (a : α) (rest : List Char) : Prop :=
  read.run cs = pure (a, rest)

namespace Reads

variable {read : StateT (List Char) m α} {cs mid rest : List Char} {a : α} {b : β}

theorem done (a : α) (cs : List Char) : Reads (m := m) (pure a) cs a cs := StateT.run_pure a cs

theorem get (cs : List Char) : Reads (m := m) MonadStateOf.get cs cs cs := StateT.run_get cs

theorem set (cs rest : List Char) : Reads (m := m) (MonadStateOf.set rest) cs () rest :=
  StateT.run_set cs rest

theorem modify (f : List Char → List Char) (cs : List Char) :
    Reads (m := m) (modify f) cs () (f cs) :=
  StateT.run_modify f cs

variable [LawfulMonad m]

theorem bind {next : α → StateT (List Char) m β} (first : Reads read cs a mid)
    (second : Reads (next a) mid b rest) : Reads (read >>= next) cs b rest := by
  unfold Reads at *
  rw [StateT.run_bind, first, pure_bind]
  exact second

theorem seqRight {next : StateT (List Char) m β} (first : Reads read cs a mid)
    (second : Reads next mid b rest) : Reads (read *> next) cs b rest := by
  rw [seqRight_eq_bind]
  exact first.bind second

end Reads

theorem reads_expect (c : Char) (cs : List Char) : Reads (Reader.expect c) (c :: cs) () cs := by
  unfold Reader.expect
  refine .bind (.bind (.get _) (.done _ _)) ?_
  simp only [List.head?_cons, if_true]
  exact .modify List.tail _

end WorkerMemory.Text
