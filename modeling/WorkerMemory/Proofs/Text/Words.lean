import WorkerMemory.Proofs.Text.Split

/-! # The words of a text

Blanks, a word, blanks, a word and so on: every text is made like this in one way, and its fields
are the words.
-/

namespace WorkerMemory.Text

def IsGap (cs : List Char) : Prop := ∀ c ∈ cs, isBlank c

instance (cs : List Char) : Decidable (IsGap cs) := List.decidableBAll _ cs

def IsWord (cs : List Char) : Prop := cs ≠ [] ∧ ∀ c ∈ cs, isBlank c = false

/-- Words with gaps around them, of which only the first and the last may be empty. -/
inductive HasWords : List Char → List (List Char) → Prop
  | none {gap : List Char} (hgap : IsGap gap) : HasWords gap []
  | word {gap word rest : List Char} {words : List (List Char)} (hgap : IsGap gap)
      (hword : IsWord word) (ends : ∀ c ∈ rest.head?, isBlank c) (more : HasWords rest words) :
      HasWords (gap ++ (word ++ rest)) (word :: words)

theorem isGap_nil : IsGap [] := by simp [IsGap]

theorem isGap_cons {c : Char} {cs : List Char} : IsGap (c :: cs) ↔ isBlank c ∧ IsGap cs :=
  List.forall_mem_cons

theorem isWord_singleton {c : Char} (h : isBlank c = false) : IsWord [c] :=
  ⟨List.cons_ne_nil _ _, by simpa using h⟩

theorem IsWord.cons {c : Char} {word : List Char} (hword : IsWord word) (h : isBlank c = false) :
    IsWord (c :: word) :=
  ⟨List.cons_ne_nil _ _, List.forall_mem_cons.mpr ⟨h, hword.2⟩⟩

/-! ## Fields are words -/

theorem fields_gap_append {gap : List Char} (hgap : IsGap gap) (cs : List Char) :
    fields (gap ++ cs) = fields cs := by
  induction gap with
  | nil => rfl
  | cons c gap ih =>
    rw [isGap_cons] at hgap
    have hcons := fields_append_cons hgap.1 [] (gap ++ cs)
    rw [List.cons_append, ← List.nil_append (c :: _), hcons, ih hgap.2]
    rfl

theorem fields_gap {gap : List Char} (hgap : IsGap gap) : fields gap = [] := by
  rw [← List.append_nil gap, fields_gap_append hgap]
  rfl

theorem fields_word {word : List Char} (hword : IsWord word) : fields word = [word] := by
  unfold fields
  rw [splitWhere_eq_splitOnP, List.splitOnP_eq_singleton hword.2]
  simpa using hword.1

theorem fields_word_append {word rest : List Char} (hword : IsWord word)
    (ends : ∀ c ∈ rest.head?, isBlank c) : fields (word ++ rest) = word :: fields rest := by
  cases rest with
  | nil =>
    rw [List.append_nil, fields_word hword]
    rfl
  | cons c rest =>
    have hblank : isBlank c := ends c rfl
    have hrest : fields (c :: rest) = fields rest := fields_append_cons hblank [] rest
    rw [fields_append_cons hblank, fields_word hword, hrest]
    rfl

theorem fields_of_hasWords {cs : List Char} {words : List (List Char)} (h : HasWords cs words) :
    fields cs = words := by
  induction h with
  | none hgap => exact fields_gap hgap
  | word hgap hword ends _ ih => rw [fields_gap_append hgap, fields_word_append hword ends, ih]

theorem exists_hasWords (cs : List Char) : ∃ words, HasWords cs words := by
  induction cs with
  | nil => exact ⟨[], .none isGap_nil⟩
  | cons c cs ih =>
    obtain ⟨words, h⟩ := ih
    -- A blank makes the first gap longer. Another character makes the first word longer if this
    -- follows at once, else it is a word by itself.
    by_cases hc : isBlank c
    · cases h with
      | none hgap => exact ⟨[], .none (isGap_cons.mpr ⟨hc, hgap⟩)⟩
      | word hgap hword ends more =>
        exact ⟨_, .word (isGap_cons.mpr ⟨hc, hgap⟩) hword ends more⟩
    · rw [Bool.not_eq_true] at hc
      have hfirst : (∀ d ∈ cs.head?, isBlank d) → ∃ words, HasWords (c :: cs) words := fun ends =>
        ⟨[c] :: words, .word isGap_nil (isWord_singleton hc) ends h⟩
      cases h with
      | none hgap => exact hfirst fun d hd => hgap d (List.mem_of_mem_head? hd)
      | @word gap word rest words hgap hword ends more =>
        cases gap with
        | nil => exact ⟨(c :: word) :: words, .word isGap_nil (hword.cons hc) ends more⟩
        | cons d gap =>
          apply hfirst
          rintro _ ⟨⟩
          exact (isGap_cons.mp hgap).1

/-! ## Two words -/

theorem hasWords_one_iff {cs word : List Char} :
    HasWords cs [word] ↔ ∃ before after, cs = before ++ (word ++ after) ∧ IsGap before ∧
      IsWord word ∧ IsGap after := by
  constructor
  · rintro (_ | ⟨hbefore, hword, _, ⟨hafter⟩⟩)
    exact ⟨_, _, rfl, hbefore, hword, hafter⟩
  · rintro ⟨before, after, rfl, hbefore, hword, hafter⟩
    exact .word hbefore hword (fun c hc => hafter c (List.mem_of_mem_head? hc)) (.none hafter)

/-- Without a blank between them two words would be one. -/
theorem hasWords_two_iff {cs one two : List Char} :
    HasWords cs [one, two] ↔ ∃ before between after,
      cs = before ++ (one ++ (between ++ (two ++ after))) ∧ IsGap before ∧ IsWord one ∧
      IsGap between ∧ between ≠ [] ∧ IsWord two ∧ IsGap after := by
  constructor
  · rintro (_ | ⟨hbefore, hone, ends, more⟩)
    obtain ⟨between, after, rfl, hbetween, htwo, hafter⟩ := hasWords_one_iff.mp more
    refine ⟨_, between, after, rfl, hbefore, hone, hbetween, ?_, htwo, hafter⟩
    rintro rfl
    obtain ⟨c, word, rfl⟩ := List.exists_cons_of_ne_nil htwo.1
    have hblank : isBlank c := ends c rfl
    rw [htwo.2 c List.mem_cons_self] at hblank
    exact Bool.false_ne_true hblank
  · rintro ⟨before, between, after, rfl, hbefore, hone, hbetween, hne, htwo, hafter⟩
    obtain ⟨c, gap, rfl⟩ := List.exists_cons_of_ne_nil hne
    refine .word hbefore hone ?_ (hasWords_one_iff.mpr ⟨_, after, rfl, hbetween, htwo, hafter⟩)
    rintro _ ⟨⟩
    exact (isGap_cons.mp hbetween).1

end WorkerMemory.Text
