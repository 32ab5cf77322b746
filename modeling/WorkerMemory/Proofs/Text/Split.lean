import WorkerMemory.Text.Blank

/-! # Parts of a text

Splitting at separators and joining with them undo each other. Blanks at the end of a line and an
empty last line are no parts of their own.
-/

namespace WorkerMemory.Text

theorem splitWhere_eq_splitOnP (sep : Char → Bool) (cs : List Char) :
    splitWhere sep cs = cs.splitOnP sep := by
  induction cs with
  | nil => rfl
  | cons c cs ih =>
    rw [splitWhere, ih, List.splitOnP_cons_eq_if_modifyHead]
    split
    · rfl
    · have hne := List.splitOnP_ne_nil sep cs
      split
      · contradiction
      · next heq => rw [heq]; rfl

theorem splitOn_eq (sep : Char) (cs : List Char) : splitOn sep cs = cs.splitOn sep :=
  splitWhere_eq_splitOnP _ cs

theorem joinWith_eq (sep : Char) (parts : List (List Char)) :
    joinWith sep parts = [sep].intercalate parts := by
  fun_induction joinWith sep parts with
  | case1 => rfl
  | case2 part => simp [List.intercalate]
  | case3 part parts hne ih =>
    cases parts with
    | nil => contradiction
    | cons next parts => simp [ih, List.intercalate]

theorem splitOn_joinWith {sep : Char} {parts : List (List Char)}
    (free : ∀ part ∈ parts, sep ∉ part) (hne : parts ≠ []) :
    splitOn sep (joinWith sep parts) = parts := by
  rw [splitOn_eq, joinWith_eq]
  exact List.splitOn_intercalate sep free hne

theorem notMem_joinWith {c sep : Char} {parts : List (List Char)} (hsep : c ≠ sep)
    (h : ∀ part ∈ parts, c ∉ part) : c ∉ joinWith sep parts := by
  fun_induction joinWith sep parts with
  | case1 => exact List.not_mem_nil
  | case2 part => exact h part List.mem_cons_self
  | case3 part parts _ ih =>
    rw [List.forall_mem_cons] at h
    simp [h.1, hsep, ih h.2]

theorem exists_mem_splitWhere {sep : Char → Bool} {cs : List Char} {c : Char} (hc : c ∈ cs)
    (kept : sep c = false) : ∃ part ∈ splitWhere sep cs, c ∈ part := by
  fun_induction splitWhere sep cs with
  | case1 => contradiction
  | case2 d cs hsep ih =>
    obtain rfl | hc := List.mem_cons.mp hc
    · rw [hsep] at kept
      contradiction
    · obtain ⟨part, hpart, hmem⟩ := ih hc
      exact ⟨part, List.mem_cons_of_mem _ hpart, hmem⟩
  | case3 d cs _ hnil => exact absurd hnil (splitWhere_ne_nil sep cs)
  | case4 d cs _ first parts hparts ih =>
    rw [hparts] at ih
    obtain rfl | hc := List.mem_cons.mp hc
    · exact ⟨_, List.mem_cons_self, List.mem_cons_self⟩
    · obtain ⟨part, hpart, hmem⟩ := ih hc
      obtain rfl | hpart := List.mem_cons.mp hpart
      · exact ⟨_, List.mem_cons_self, List.mem_cons_of_mem _ hmem⟩
      · exact ⟨part, List.mem_cons_of_mem _ hpart, hmem⟩

/-! ## The first separator -/

/-- What stands in front of the first separator, and what stands behind it if there is one. -/
inductive Cut (sep : Char) : List Char → List Char → Option (List Char) → Prop
  | uncut {part : List Char} (free : sep ∉ part) : Cut sep part part none
  | cut {part : List Char} (free : sep ∉ part) (rest : List Char) :
      Cut sep (part ++ sep :: rest) part (some rest)

theorem cutAt_of_cut {sep : Char} {cs part : List Char} {rest : Option (List Char)}
    (h : Cut sep cs part rest) : cutAt sep cs = (part, rest) := by
  have hkeep {part : List Char} (free : sep ∉ part) : ∀ c ∈ part, (c != sep) = true := by
    intro c hc
    rw [bne_iff_ne]
    rintro rfl
    exact free hc
  cases h with
  | uncut free =>
    have hdrop : cs.dropWhile (· != sep) = [] := by
      rw [← List.append_nil cs, List.dropWhile_append_of_pos (hkeep free)]
      rfl
    simp only [cutAt, hdrop]
  | cut free rest =>
    have hdrop : (part ++ sep :: rest).dropWhile (· != sep) = sep :: rest := by
      rw [List.dropWhile_append_of_pos (hkeep free)]
      simp
    have htake : (part ++ sep :: rest).takeWhile (· != sep) = part := by
      rw [List.takeWhile_append_of_pos (hkeep free)]
      simp
    simp only [cutAt, hdrop, htake]

theorem exists_cut (sep : Char) (cs : List Char) : ∃ part rest, Cut sep cs part rest := by
  by_cases h : sep ∈ cs
  · obtain ⟨part, rest, rfl, free⟩ := List.eq_append_cons_of_mem h
    exact ⟨part, some rest, .cut free rest⟩
  · exact ⟨cs, none, .uncut h⟩

/-! ## Fields -/

theorem exists_mem_fields {cs : List Char} {c : Char} (hc : c ∈ cs) (kept : isBlank c = false) :
    ∃ field ∈ fields cs, c ∈ field := by
  obtain ⟨part, hpart, hmem⟩ := exists_mem_splitWhere hc kept
  refine ⟨part, List.mem_filter.mpr ⟨hpart, ?_⟩, hmem⟩
  simpa using List.ne_nil_of_mem hmem

theorem fields_append_cons {c : Char} (blank : isBlank c) (cs ds : List Char) :
    fields (cs ++ c :: ds) = fields cs ++ fields ds := by
  unfold fields
  rw [splitWhere_eq_splitOnP, splitWhere_eq_splitOnP, splitWhere_eq_splitOnP,
    List.splitOnP_append_cons cs ds blank, List.filter_append]

theorem fields_append_blank {cs : List Char} {c : Char} (blank : isBlank c) :
    fields (cs ++ [c]) = fields cs := by
  rw [fields_append_cons blank]
  exact List.append_nil _

/-! ## Lines -/

theorem fields_dropCarriageReturn (line : List Char) :
    fields (dropCarriageReturn line) = fields line := by
  unfold dropCarriageReturn
  split
  · next h =>
    obtain ⟨text, rfl⟩ := List.getLast?_eq_some_iff.mp h
    rw [List.dropLast_concat, fields_append_blank (by decide)]
  · rfl

theorem lines_eq {cs : List Char} {parts : List (List Char)} {last : List Char}
    (h : splitOn '\n' cs = parts ++ [last]) :
    lines cs = parts.map dropCarriageReturn ++ if last = [] then [] else [last] := by
  simp only [lines, h, List.getLast?_concat, List.dropLast_concat]
  split
  · next heq =>
    obtain rfl := Option.some.inj heq
    rw [if_pos rfl, List.append_nil]
  · next hne heq =>
    obtain rfl := Option.some.inj heq
    rw [if_neg fun hnil => hne (by rw [hnil])]
  · contradiction

theorem lines_of_notMem {cs : List Char} (h : '\n' ∉ cs) (hne : cs ≠ []) : lines cs = [cs] := by
  have hfree : ∀ part ∈ [cs], '\n' ∉ part := by simpa using h
  have hsplit : splitOn '\n' cs = [] ++ [cs] := splitOn_joinWith hfree (List.cons_ne_nil _ _)
  rw [lines_eq hsplit, if_neg hne]
  rfl

end WorkerMemory.Text
