/-! # The last member of a list with a property -/

namespace WorkerMemory

variable {α : Type} (p : α → Prop) [DecidablePred p]

theorem getLast?_filter_append (before after : List α) :
    ((before ++ after).filter p).getLast? =
      (after.filter p).getLast?.or (before.filter p).getLast? := by
  rw [List.filter_append, List.getLast?_append]

theorem getLast?_filter_cons (a : α) (l : List α) :
    ((a :: l).filter p).getLast? = (l.filter p).getLast?.or (if p a then some a else none) := by
  rw [← List.singleton_append, getLast?_filter_append]
  by_cases h : p a <;> simp [h]

variable {p}

theorem getLast?_filter_eq_none_iff {l : List α} :
    (l.filter p).getLast? = none ↔ ∀ a ∈ l, ¬ p a := by
  rw [List.getLast?_eq_none_iff, List.filter_eq_nil_iff]
  simp only [decide_eq_true_eq]

theorem getLast?_filter_eq_some_iff {l : List α} {a : α} :
    (l.filter p).getLast? = some a ↔
      ∃ before after, l = before ++ a :: after ∧ p a ∧ ∀ later ∈ after, ¬ p later := by
  constructor
  · intro h
    obtain ⟨start, hfilter⟩ := List.getLast?_eq_some_iff.mp h
    obtain ⟨before, rest, rfl, -, hrest⟩ := List.filter_eq_append_iff.mp hfilter
    obtain ⟨passed, after, rfl, -, ha, hafter⟩ := List.filter_eq_cons_iff.mp hrest
    refine ⟨before ++ passed, after, (List.append_assoc ..).symm, of_decide_eq_true ha, ?_⟩
    simpa [List.filter_eq_nil_iff] using hafter
  · rintro ⟨before, after, rfl, ha, hafter⟩
    rw [getLast?_filter_append, getLast?_filter_cons, getLast?_filter_eq_none_iff.mpr hafter,
      if_pos ha]
    rfl

end WorkerMemory
