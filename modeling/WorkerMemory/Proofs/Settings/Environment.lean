import WorkerMemory.Proofs.Settings.Layers

/-! # What variables set

A variable sets the key behind `WORKER_METRICS_`, and the case of the letters in its name does not
matter.
-/

namespace WorkerMemory

open Text

/-! ## Letter case -/

theorem toLower_letterLower (c : Char) : (letterLower c).toLower = letterLower c := by
  unfold letterLower
  split
  · rfl
  · rcases toLower_cases c with hsame | hsmall
    · rw [hsame, hsame]
    · generalize c.toLower = small at hsmall
      unfold Char.toLower
      split
      · next hupper =>
        have hhigh : small.toNat ≤ 90 := UInt32.le_iff_toNat_le.mp hupper.2
        omega
      · rfl

theorem asciiLower_lower (cs : List Char) : asciiLower (lower cs) = lower cs := by
  unfold asciiLower lower
  rw [List.map_map]
  exact List.map_congr_left fun c _ => toLower_letterLower c

theorem notMem_lower {c : Char} (hc : c.toNat < 97) {cs : List Char} (h : c ∉ cs) :
    c ∉ lower cs := by
  unfold lower
  intro hmem
  obtain ⟨d, hd, hlower⟩ := List.mem_map.mp hmem
  unfold letterLower at hlower
  split at hlower
  · subst hlower
    exact absurd hc (by decide)
  · rw [eq_of_toLower_eq hc hlower] at hd
    exact h hd

/-! ## Keys of variables -/

theorem Loose.guess_ne_table (s : String) (entries : List (String × Loose)) :
    Loose.guess s ≠ .table entries := by
  fun_cases Loose.guess s <;> exact Loose.noConfusion

namespace Environment

theorem key?_eq_some_iff {variableName key : String} :
    key? variableName = some key ↔ lower variableName.toList = keyStart ++ key.toList := by
  unfold key?
  simp only
  constructor
  · intro h
    split at h
    · next hstart =>
      obtain ⟨rest, hrest⟩ := List.isPrefixOf_iff_prefix.mp hstart
      rw [← hrest, List.drop_left] at h
      rw [← hrest, ← Option.some.inj h, String.toList_ofList]
    · contradiction
  · intro h
    rw [h, if_pos (List.isPrefixOf_iff_prefix.mpr (List.prefix_append _ _)), List.drop_left,
      String.ofList_toList]

theorem folded_of_key? {variableName key : String} (h : key? variableName = some key) :
    folded key = key := by
  have hlower := asciiLower_lower variableName.toList
  rw [key?_eq_some_iff.mp h] at hlower
  unfold asciiLower at hlower
  rw [List.map_append] at hlower
  have hkey : asciiLower key.toList = key.toList := List.append_inj_right hlower (List.length_map _)
  rw [folded, hkey, String.ofList_toList]

theorem mem_entries_iff {environment : List (String × String)} {key : String} {v : Loose} :
    (key, v) ∈ entries environment ↔
      ∃ entry ∈ environment, key? entry.1 = some key ∧ Loose.guess entry.2 = v := by
  unfold entries
  rw [List.mem_filterMap]
  constructor
  · rintro ⟨entry, hentry, hmap⟩
    obtain ⟨key', hkey, ⟨⟩⟩ := Option.map_eq_some_iff.mp hmap
    exact ⟨entry, hentry, hkey, rfl⟩
  · rintro ⟨entry, hentry, hkey, rfl⟩
    exact ⟨entry, hentry, Option.map_eq_some_iff.mpr ⟨key, hkey, rfl⟩⟩

theorem ne_table_of_mem_entries {environment : List (String × String)} {entry : String × Loose}
    (h : entry ∈ entries environment) (table : List (String × Loose)) : entry.2 ≠ .table table := by
  obtain ⟨source, -, -, hv⟩ := mem_entries_iff.mp h
  rw [← hv]
  exact Loose.guess_ne_table source.2 table

/-- Some variable stands for the setting. -/
def Sets (environment : List (String × String)) (name : String) : Prop :=
  ∃ entry ∈ environment, key? entry.1 = some name

theorem given_entries_eq_none_iff {environment : List (String × String)} {name : String} :
    given (entries environment) name = none ↔ ¬ Sets environment name := by
  rw [given_eq_none_iff]
  constructor
  · rintro hnone ⟨entry, hentry, hkey⟩
    exact hnone _ (mem_entries_iff.mpr ⟨entry, hentry, hkey, rfl⟩) (folded_of_key? hkey)
  · rintro hsets ⟨key, v⟩ hmem rfl
    obtain ⟨entry, hentry, hkey, -⟩ := mem_entries_iff.mp hmem
    apply hsets
    rw [folded_of_key? hkey]
    exact ⟨entry, hentry, hkey⟩

/-- The variables of the settings have names without dots and brackets, no two the same but for the
case of their letters. -/
structure HasPlainNames (environment : List (String × String)) : Prop where
  plain : ∀ entry ∈ environment, (key? entry.1).isSome → IsPlain entry.1
  distinct : environment.Pairwise fun entry other =>
    (key? entry.1).isSome → lower entry.1.toList ≠ lower other.1.toList

theorem isPlain_of_key? {variableName key : String} (h : key? variableName = some key)
    (plain : IsPlain variableName) : IsPlain key := by
  have hsplit := key?_eq_some_iff.mp h
  have hdot : '.' ∉ lower variableName.toList := notMem_lower (by decide) plain.1
  have hbracket : '[' ∉ lower variableName.toList := notMem_lower (by decide) plain.2
  rw [hsplit] at hdot hbracket
  exact ⟨fun h => hdot (List.mem_append_right _ h), fun h => hbracket (List.mem_append_right _ h)⟩

theorem hasPlainKeys_entries {environment : List (String × String)}
    (h : HasPlainNames environment) : HasPlainKeys (entries environment) where
  plain := by
    intro entry hentry
    obtain ⟨source, hmem, hkey, -⟩ := mem_entries_iff.mp hentry
    exact isPlain_of_key? hkey (h.plain _ hmem (Option.isSome_of_mem hkey))
  distinct := by
    unfold entries
    apply List.pairwise_map.mpr
    refine List.Pairwise.filterMap _ ?_ h.distinct
    intro first second hne entry hentry other hother heq
    obtain ⟨key, hkey, rfl⟩ := Option.map_eq_some_iff.mp hentry
    obtain ⟨key', hkey', rfl⟩ := Option.map_eq_some_iff.mp hother
    -- The same key means the same name in lower case.
    rw [folded_of_key? hkey, folded_of_key? hkey'] at heq
    apply hne (Option.isSome_of_mem hkey)
    rw [key?_eq_some_iff.mp hkey, key?_eq_some_iff.mp hkey', heq]

end Environment

end WorkerMemory
