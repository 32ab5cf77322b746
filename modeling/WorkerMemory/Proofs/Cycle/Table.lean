import WorkerMemory.Proofs.Cycle.Metrics
import WorkerMemory.Proofs.Table

/-! # The table of a cycle

A cycle reports its workers in the order of the store. The table has an order of its own, and that
of the report does not show in it.
-/

namespace WorkerMemory

namespace Table

theorem format_perm {metrics metrics' : List Metric} (nodup : (metrics.map (·.worker.id)).Nodup)
    (h : metrics.Perm metrics') : format metrics = format metrics' := by
  have hempty : metrics.isEmpty = metrics'.isEmpty := by
    rw [Bool.eq_iff_iff, List.isEmpty_iff, List.isEmpty_iff]
    exact ⟨fun heq => (heq ▸ h).nil_eq.symm, fun heq => (heq ▸ h).eq_nil⟩
  simp only [format, hempty, sorted_perm nodup h]

/-- The order of metrics with distinct ids does not show. With any ids each metric has its row, by
ascending id and then as the metrics came. So a cycle may list its workers in any order. -/
theorem format_by_id :
    (∀ metrics metrics' : List Metric, (metrics.map (·.worker.id)).Nodup →
      metrics.Perm metrics' → format metrics = format metrics') ∧
    (∀ metrics : List Metric, metrics ≠ [] → ∃ rows, Ranked rows metrics ∧ rows.Perm metrics ∧
      let widths := columnWidths (title :: rows.map row)
      (format metrics).toList = rule widths ++ rowText widths title ++ rule widths ++
        rows.flatMap (fun m => rowText widths (row m)) ++ rule widths ∧
      ∀ m ∈ rows, Shows (rowText widths (row m)) m.worker) ∧
    ∀ (σ : Type) [WorkerStore σ] [LawfulStore σ] (machine : Machine) (now : Instant)
      (platform : Platform) (during : σ → σ) (store : σ) (order : List Worker),
      order.Perm (WorkerStore.snapshot store) →
      let cycle := Cycle.ofSnapshot machine now platform during order store
      ∀ metrics, cycle.metrics.Perm metrics → format cycle.metrics = format metrics := by
  refine ⟨fun _ _ => format_perm, ?_, ?_⟩
  · intro metrics hne
    obtain ⟨hwidths, htext⟩ := toList_format hne
    exact ⟨sorted metrics, ranked_sorted metrics, perm_sorted metrics, htext, fun m _ =>
      shows_rowText m hwidths⟩
  · intro σ _ _ machine now platform during store order listed cycle metrics h
    exact format_perm (Cycle.nodup_ids_ofSnapshot machine now platform during listed) h

/-- Two metrics of worker 7 stay as they come, below that of worker 3. -/
theorem format_by_id_ties :
    let gone : Metric := .unmeasurable { id := 7, pid := 40 }
    let seen : Metric := .measured { id := 7, pid := 41, mnemonic := "Javac" } ⟨800, .epoch⟩
    let low : Metric := .unmeasurable { id := 3, pid := 42 }
    let w : Worker := { id := 7, pid := 40 }
    let v : Worker := { id := 3, pid := 42 }
    let store : ShardedStore := (Registry.register v (Registry.register w WorkerStore.empty).2).2
    let cycle := Cycle.ofSnapshot (.still ⟨[]⟩ ∅) .epoch .linux id [v, w] store
    ([seen, low].map (·.worker.id)).Nodup ∧ [seen, low].Perm [low, seen] ∧
    format [seen, low] = format [low, seen] ∧
    (∃ rows, Ranked rows [seen, low, gone] ∧ rows = [low, seen, gone]) ∧
    [v, w].Perm (WorkerStore.snapshot store) ∧
    cycle.metrics.Perm cycle.metrics.reverse ∧
    format cycle.metrics = format cycle.metrics.reverse := by
  intro gone seen low w v store cycle
  obtain ⟨hany, hrows, hcycle⟩ := format_by_id
  have nodup : ([seen, low].map (·.worker.id)).Nodup := by decide
  have swapped : [seen, low].Perm [low, seen] := .swap low seen []
  obtain ⟨rows, hranked, -⟩ := hrows [seen, low, gone] (List.cons_ne_nil _ _)
  have hexpected : Ranked [low, seen, gone] [seen, low, gone] := by
    refine ⟨by decide, fun id => ?_⟩
    by_cases hid : id = 7
    · subst hid
      rfl
    · have hne : ¬ (7 : UInt32) = id := fun h => hid h.symm
      simp [ofId, seen, gone, low, Metric.measured, Metric.unmeasurable, List.filter_cons, hne]
  have listed : [v, w].Perm (WorkerStore.snapshot store) := by decide
  have reversed : cycle.metrics.Perm cycle.metrics.reverse := (List.reverse_perm _).symm
  exact ⟨nodup, swapped, hany _ _ nodup swapped, ⟨rows, hranked, hranked.unique hexpected⟩, listed,
    reversed, hcycle ShardedStore _ _ _ _ store _ listed _ reversed⟩

end Table

end WorkerMemory
