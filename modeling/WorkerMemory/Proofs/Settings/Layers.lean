import WorkerMemory.Settings.Layers

/-! # What sources give to a setting

A source whose keys are plain names sets what they name. What it gives is laid over what was there:
a table goes into a table, and any other value replaces it. Settings are then read off by name.
-/

namespace WorkerMemory

open Text

/-! ## Names -/

/-- Only dots and brackets lead inside an entry. -/
def IsPlain (key : String) : Prop := '.' ∉ key.toList ∧ '[' ∉ key.toList

/-- A key without regard to the case of its letters. -/
def folded (key : String) : String := String.ofList (asciiLower key.toList)

theorem toLower_cases (c : Char) : c.toLower = c ∨ 97 ≤ c.toLower.toNat := by
  unfold Char.toLower
  split
  · next hupper =>
    right
    have hlow : 65 ≤ c.toNat := UInt32.le_iff_toNat_le.mp hupper.1
    have hhigh : c.toNat ≤ 90 := UInt32.le_iff_toNat_le.mp hupper.2
    have hshift : (c.val + ('a'.val - 'A'.val)).toNat = c.toNat + 32 := by
      rw [UInt32.toNat_add]
      exact Nat.mod_eq_of_lt (by change c.toNat + 32 < 4294967296; omega)
    change 97 ≤ (c.val + ('a'.val - 'A'.val)).toNat
    omega
  · exact .inl rfl

theorem eq_of_toLower_eq {c d : Char} (hc : c.toNat < 97) (h : d.toLower = c) : d = c := by
  rcases toLower_cases d with hsame | hsmall
  · exact hsame.symm.trans h
  · rw [h] at hsmall
    omega

theorem notMem_asciiLower {c : Char} (hc : c.toNat < 97) {cs : List Char} (h : c ∉ cs) :
    c ∉ asciiLower cs := by
  unfold asciiLower
  intro hmem
  obtain ⟨d, hd, hlower⟩ := List.mem_map.mp hmem
  rw [eq_of_toLower_eq hc hlower] at hd
  exact h hd

namespace SettingKey

theorem isSteps_eq_false {room : Nat} {cs : List Char} (hne : cs ≠ [])
    (hdot : cs.head? ≠ some '.') (hbracket : cs.head? ≠ some '[') : isSteps room cs = false := by
  cases cs with
  | nil => exact absurd rfl hne
  | cons c cs =>
    cases room with
    | zero => rfl
    | succ room =>
      unfold isSteps
      split <;> simp_all

theorem parse_of_step_eq_none {key : String} (h : (parse key).step = none) :
    parse key = { name := folded key, step := none } := by
  unfold parse folded at *
  generalize asciiLower key.toList = cs at *
  have hsplit : cs.takeWhile isNameChar ++ cs.dropWhile isNameChar = cs :=
    List.takeWhile_append_dropWhile
  simp only at *
  cases hrest : cs.dropWhile isNameChar with
  | nil =>
    rw [hrest, List.append_nil] at hsplit
    rw [hsplit]
    split <;> rfl
  | cons c rest =>
    rw [hrest] at h
    split at h
    · next hwhole => rw [if_pos hwhole]
    · next hsteps =>
      have hc : isSteps (c :: rest).length (c :: rest) = false := by
        apply isSteps_eq_false (List.cons_ne_nil _ _)
        · rintro ⟨⟩
          contradiction
        · rintro ⟨⟩
          contradiction
      rw [hc, Bool.not_false, Bool.or_true] at hsteps
      exact absurd rfl hsteps

theorem step_of_isPlain {key : String} (h : IsPlain key) : (parse key).step = none := by
  have hdot : '.' ∉ asciiLower key.toList := notMem_asciiLower (by decide) h.1
  have hbracket : '[' ∉ asciiLower key.toList := notMem_asciiLower (by decide) h.2
  unfold parse
  generalize asciiLower key.toList = cs at *
  have hrest {c : Char} (hc : c ∉ cs) (rest : List Char) : cs.dropWhile isNameChar ≠ c :: rest := by
    intro heq
    apply hc
    rw [← List.takeWhile_append_dropWhile (p := isNameChar) (l := cs), heq]
    exact List.mem_append_right _ List.mem_cons_self
  simp only
  split
  · rfl
  · split
    · next heq => exact absurd heq (hrest hdot _)
    · next heq => exact absurd heq (hrest hbracket _)
    · rfl

theorem parse_of_isPlain {key : String} (h : IsPlain key) :
    parse key = { name := folded key, step := none } :=
  parse_of_step_eq_none (step_of_isPlain h)

end SettingKey

/-! ## One entry -/

/-- What a value becomes where nothing has its name yet. -/
def Entry.ofSource (origin : String) : Loose → Entry
  | .table entries => { value := .table entries, origin := none }
  | v => { value := v, origin := some origin }

theorem Entry.value_ofSource (origin : String) (v : Loose) : (ofSource origin v).value = v := by
  cases v <;> rfl

theorem lookup_cons_eq {α : Type} (key : String) (a : α) (entries : List (String × α))
    (name : String) :
    ((key, a) :: entries).lookup name = if name = key then some a else entries.lookup name := by
  rw [List.lookup_cons]
  by_cases h : name = key
  · simp [h]
  · have hne : (name == key) = false := beq_eq_false_iff_ne.mpr h
    rw [hne, if_neg h]

namespace Layers

theorem get?_put (layers : Layers) (name : String) (entry : Entry) (other : String) :
    (layers.put name entry).get? other = if other = name then some entry else layers.get? other := by
  unfold put get?
  rw [lookup_cons_eq]
  split
  · rfl
  · next hother =>
    induction layers with
    | nil => rfl
    | cons first layers ih =>
      obtain ⟨key, old⟩ := first
      rw [List.filter_cons, lookup_cons_eq]
      by_cases hkey : key = name
      · have hne : other ≠ key := hkey ▸ hother
        simpa [hkey, hother, hne] using ih
      · have hkeep : (key != name) = true := bne_iff_ne.mpr hkey
        rw [if_pos hkeep, lookup_cons_eq, ih]

theorem get?_set {layers : Layers} {origin key : String} {v : Loose} (plain : IsPlain key)
    (replaces : (∀ entries, v ≠ .table entries) ∨ layers.get? (folded key) = none) (name : String) :
    (layers.set origin key v).get? name =
      if name = folded key then some (Entry.ofSource origin v) else layers.get? name := by
  unfold set
  rw [SettingKey.parse_of_isPlain plain]
  cases v with
  | table entries =>
    have hnone : layers.get? (folded key) = none :=
      replaces.resolve_left fun h => h entries rfl
    simp only [putTable, hnone, get?_put, List.append_nil, Entry.ofSource]
  | null | bool | int | float | text | list => simp only [get?_put, Entry.ofSource]

end Layers

/-! ## Entries that only parts of them name -/

/-- Lists and tables have parts. -/
def Loose.hasParts : Loose → Bool
  | .list _ | .table _ => true
  | _ => false

namespace Layers

/-- What is laid over does not name the entry. So it is as it was, or a part of it was named. -/
def Untouched (layers layers' : Layers) (name : String) : Prop :=
  layers'.get? name = layers.get? name ∨
    ∃ entry, layers'.get? name = some entry ∧ entry.value.hasParts

theorem untouched_put {layers : Layers} {name other : String} {entry : Entry}
    (hentry : name = other → entry.value.hasParts) :
    Untouched layers (layers.put other entry) name := by
  unfold Untouched
  rw [get?_put]
  split
  · next hname => exact .inr ⟨entry, rfl, hentry hname⟩
  · exact .inl rfl

theorem untouched_putTable (layers : Layers) (name other : String)
    (entries : List (String × Loose)) :
    Untouched layers (layers.putTable other entries) name := by
  fun_cases putTable layers other entries with
  | case2 => exact .inl rfl
  | case1 | case3 | case4 => exact untouched_put fun _ => rfl

theorem untouched_set {name key : String} (hkey : folded key ≠ name) (layers : Layers)
    (origin : String) (v : Loose) : Untouched layers (layers.set origin key v) name := by
  unfold Layers.set
  cases hstep : (SettingKey.parse key).step with
  | none =>
    rw [SettingKey.parse_of_step_eq_none hstep]
    cases v with
    | table entries => exact untouched_putTable layers name (folded key) entries
    | null | bool | int | float | text | list =>
      exact untouched_put fun heq => absurd heq.symm hkey
  | some step =>
    simp only [hstep]
    fun_cases Layers.putInside layers (SettingKey.parse key).name step v <;>
      exact untouched_put fun _ => rfl

theorem untouched_setAll {name : String} {entries : List (String × Loose)}
    (hkeys : ∀ entry ∈ entries, folded entry.1 ≠ name) (layers : Layers) (origin : String) :
    Untouched layers (layers.setAll origin entries) name := by
  unfold Layers.setAll
  induction entries generalizing layers with
  | nil => exact .inl rfl
  | cons entry entries ih =>
    rw [List.forall_mem_cons] at hkeys
    rcases ih hkeys.2 (layers.set origin entry.1 entry.2) with hrest | hparts
    · have hfirst := untouched_set hkeys.1 layers origin entry.2
      unfold Untouched at hfirst
      rwa [← hrest] at hfirst
    · exact .inr hparts

/-- The last value under a name counts. Later keys may name parts of it. -/
theorem get?_setAll_last {after : List (String × Loose)} {key : String} {v : Loose}
    (plain : IsPlain key) (noTable : ∀ entries, v ≠ .table entries)
    (last : ∀ entry ∈ after, folded entry.1 ≠ folded key) (layers : Layers) (origin : String)
    (before : List (String × Loose)) :
    let all := layers.setAll origin (before ++ (key, v) :: after)
    all.get? (folded key) = some (Entry.ofSource origin v) ∨
      ∃ entry, all.get? (folded key) = some entry ∧ entry.value.hasParts := by
  intro all
  let given := (layers.setAll origin before).set origin key v
  have hall : all = given.setAll origin after := List.foldl_append
  have hgiven : given.get? (folded key) = some (Entry.ofSource origin v) := by
    rw [get?_set plain (.inl noTable), if_pos rfl]
  rw [hall, ← hgiven]
  exact untouched_setAll last given origin

/-- Nothing is under the name but what its parts made there. -/
def IsUnnamed (layers : Layers) (name : String) : Prop :=
  ∀ entry, layers.get? name = some entry → entry.value.hasParts

theorem IsUnnamed.setAll {layers : Layers} {name : String} (h : layers.IsUnnamed name)
    {entries : List (String × Loose)} (hkeys : ∀ entry ∈ entries, folded entry.1 ≠ name)
    (origin : String) : (layers.setAll origin entries).IsUnnamed name := by
  intro found hfound
  rcases untouched_setAll hkeys layers origin with hsame | ⟨entry, hentry, hparts⟩
  · exact h found (hsame ▸ hfound)
  · rw [hentry] at hfound
    exact Option.some.inj hfound ▸ hparts

end Layers

/-! ## All entries of a source -/

/-- The value under a name, whatever the case of its letters. -/
def given (entries : List (String × Loose)) (name : String) : Option Loose :=
  (entries.map fun (key, v) => (folded key, v)).lookup name

/-- Every key is a name by itself, and no two are the same but for the case of their letters. -/
structure HasPlainKeys (entries : List (String × Loose)) : Prop where
  plain : ∀ entry ∈ entries, IsPlain entry.1
  distinct : (entries.map fun entry => folded entry.1).Nodup

theorem given_cons (key : String) (v : Loose) (entries : List (String × Loose)) (name : String) :
    given ((key, v) :: entries) name =
      if name = folded key then some v else given entries name := by
  unfold given
  rw [List.map_cons, lookup_cons_eq]

theorem given_eq_none_iff {entries : List (String × Loose)} {name : String} :
    given entries name = none ↔ ∀ entry ∈ entries, folded entry.1 ≠ name := by
  induction entries with
  | nil => simp [given]
  | cons entry entries ih =>
    rw [given_cons, List.forall_mem_cons, ← ih]
    by_cases h : name = folded entry.1
    · simp [h]
    · rw [if_neg h]
      exact (and_iff_right (Ne.symm h)).symm

theorem HasPlainKeys.tail {entry : String × Loose} {entries : List (String × Loose)}
    (h : HasPlainKeys (entry :: entries)) : HasPlainKeys entries :=
  ⟨fun e he => h.plain e (List.mem_cons_of_mem _ he), (List.nodup_cons.mp h.distinct).2⟩

theorem given_eq_some_iff {entries : List (String × Loose)} (h : HasPlainKeys entries)
    {name : String} {v : Loose} :
    given entries name = some v ↔ ∃ key, (key, v) ∈ entries ∧ folded key = name := by
  induction entries with
  | nil => simp [given]
  | cons entry entries ih =>
    obtain ⟨key, w⟩ := entry
    have hfirst : ∀ other, (other, v) ∈ entries → folded other ≠ folded key := by
      intro other hmem heq
      exact (List.nodup_cons.mp h.distinct).1 (List.mem_map.mpr ⟨_, hmem, heq⟩)
    rw [given_cons]
    split
    · next hname =>
      subst hname
      constructor
      · intro hv
        obtain rfl := Option.some.inj hv
        exact ⟨key, List.mem_cons_self, rfl⟩
      · rintro ⟨other, hmem, heq⟩
        rcases List.mem_cons.mp hmem with hmem | hmem
        · rw [(Prod.mk.inj hmem).2]
        · exact absurd heq (hfirst other hmem)
    · next hname =>
      rw [ih h.tail]
      constructor
      · rintro ⟨other, hmem, heq⟩
        exact ⟨other, List.mem_cons_of_mem _ hmem, heq⟩
      · rintro ⟨other, hmem, heq⟩
        rcases List.mem_cons.mp hmem with hmem | hmem
        · rw [← heq, (Prod.mk.inj hmem).1] at hname
          exact absurd rfl hname
        · exact ⟨other, hmem, heq⟩

theorem HasPlainKeys.perm {entries entries' : List (String × Loose)} (h : HasPlainKeys entries)
    (same : entries.Perm entries') : HasPlainKeys entries' :=
  ⟨fun e he => h.plain e (same.mem_iff.mpr he), (same.map _).nodup_iff.mp h.distinct⟩

theorem given_perm {entries entries' : List (String × Loose)} (h : HasPlainKeys entries)
    (same : entries.Perm entries') (name : String) : given entries name = given entries' name := by
  apply Option.ext
  intro v
  rw [given_eq_some_iff h, given_eq_some_iff (h.perm same)]
  simp only [same.mem_iff]

theorem Layers.get?_setAll {layers : Layers} {origin : String} {entries : List (String × Loose)}
    (h : HasPlainKeys entries)
    (replaces : ∀ entry ∈ entries,
      (∀ table, entry.2 ≠ .table table) ∨ layers.get? (folded entry.1) = none) (name : String) :
    (layers.setAll origin entries).get? name =
      ((given entries name).map (Entry.ofSource origin)).or (layers.get? name) := by
  unfold setAll
  induction entries generalizing layers with
  | nil => simp [given]
  | cons entry entries ih =>
    obtain ⟨key, v⟩ := entry
    rw [List.forall_mem_cons] at replaces
    have hset (other : String) : (layers.set origin key v).get? other =
        if other = folded key then some (Entry.ofSource origin v) else layers.get? other :=
      get?_set (h.plain _ List.mem_cons_self) replaces.1 other
    have hdistinct : folded key ∉ entries.map fun entry => folded entry.1 :=
      (List.nodup_cons.mp h.distinct).1
    -- What is new is none of the names still to come.
    have hnext : ∀ entry ∈ entries, (∀ table, entry.2 ≠ .table table) ∨
        (layers.set origin key v).get? (folded entry.1) = none := by
      intro entry hentry
      refine (replaces.2 entry hentry).imp_right fun hnone => ?_
      have hne : folded entry.1 ≠ folded key := by
        intro heq
        exact hdistinct (heq ▸ List.mem_map.mpr ⟨entry, hentry, rfl⟩)
      rw [hset, if_neg hne, hnone]
    rw [List.foldl_cons, ih h.tail hnext, hset, given_cons]
    by_cases hname : name = folded key
    · have hnone : given entries name = none := by
        apply given_eq_none_iff.mpr
        intro entry hentry heq
        exact hdistinct (List.mem_map.mpr ⟨entry, hentry, heq.trans hname⟩)
      rw [hnone, if_pos hname, if_pos hname]
      rfl
    · rw [if_neg hname, if_neg hname]

end WorkerMemory
