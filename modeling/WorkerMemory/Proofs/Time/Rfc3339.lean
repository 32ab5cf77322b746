import WorkerMemory.Proofs.Text.Numeral
import WorkerMemory.Proofs.Text.Reader
import WorkerMemory.Proofs.Time.Date
import WorkerMemory.Time.Rfc3339

/-! # Printed times are read back

Every point in time, with the leap second it may stand in and all its nanoseconds.
-/

namespace WorkerMemory.Rfc3339

open Text Numeral

/-! ## Numbers -/

theorem reads_digits {found rest : List Char} {width : Nat} (hdigits : ∀ c ∈ found, c.isDigit)
    (hne : found ≠ []) (hwidth : found.length ≤ width)
    (hend : found.length = width ∨ EndsNumber rest) :
    Reads (digits width) (found ++ rest) found rest := by
  have hfound : ((found ++ rest).take width).takeWhile Char.isDigit = found := by
    rw [List.take_append, List.take_of_length_le hwidth]
    apply takeWhile_digits hdigits
    rcases hend with hend | hend
    · simp [hend, EndsNumber]
    · intro c hc
      cases rest with
      | nil => simp at hc
      | cons d rest =>
        cases h : width - found.length with
        | zero => simp [h] at hc
        | succ k =>
          simp only [h, List.take_succ_cons, List.head?_cons] at hc
          exact hend c hc
  unfold digits
  refine .bind (.get _) ?_
  rw [hfound]
  have hempty : found.isEmpty = false := by simpa using hne
  simp only [hempty, Bool.false_eq_true, if_false]
  refine .bind (.set _ _) ?_
  rw [List.drop_left]
  exact .done _ _

/-! ## Fields -/

theorem reads_skipBlanks {c : Char} {cs : List Char} (h : isBlank c = false) :
    Reads skipBlanks (c :: cs) () (c :: cs) := by
  have htrim : trimLeft (c :: cs) = c :: cs := by simp [trimLeft, h]
  have hskip := Reads.modify (m := Option) trimLeft (c :: cs)
  rwa [htrim] at hskip

theorem value_padded (width n : Nat) : value (padded width n) = n := by
  rw [value, natural?_padded]
  rfl

theorem reads_field {width n first last : Nat} (rest : List Char) (hwidth : 0 < width)
    (hn : n < 10 ^ width) (hfirst : first ≤ n) (hlast : n ≤ last) :
    Reads (field width first last) (padded width n ++ rest) n rest := by
  have hlength := length_padded hwidth hn
  obtain ⟨c, cs, heq, hc⟩ := exists_padded_eq_cons width n
  have hskip : Reads skipBlanks (padded width n ++ rest) () (padded width n ++ rest) := by
    rw [heq]
    exact reads_skipBlanks (isBlank_eq_false_of_isDigit hc)
  unfold field
  refine .bind hskip (.bind (reads_digits (fun _ => isDigit_of_mem_padded)
    (padded_ne_nil width n) (Nat.le_of_eq hlength) (.inl hlength)) ?_)
  simp only [value_padded, hfirst, hlast, and_self, if_true]
  exact .done _ _

theorem reads_unsignedYear {n : Nat} (rest : List Char) (h : n ≤ 9999) :
    Reads signedYear (padded 4 n ++ rest) n rest := by
  have hlength : (padded 4 n).length = 4 := length_padded (by decide) (by omega)
  have hdigits : Reads (digits 4) (padded 4 n ++ rest) (padded 4 n) rest :=
    reads_digits (fun _ => isDigit_of_mem_padded) (padded_ne_nil 4 n) (Nat.le_of_eq hlength)
      (.inl hlength)
  obtain ⟨c, cs, heq, hc⟩ := exists_padded_eq_cons 4 n
  have hvalue : value (c :: cs) = n := by rw [← heq, value_padded]
  rw [heq] at hdigits ⊢
  unfold signedYear
  refine .bind (reads_skipBlanks (isBlank_eq_false_of_isDigit hc)) (.bind (.get _) ?_)
  split
  · next hminus =>
    obtain ⟨rfl, -⟩ := List.cons.inj hminus
    contradiction
  · next hplus =>
    obtain ⟨rfl, -⟩ := List.cons.inj hplus
    contradiction
  · refine .bind hdigits ?_
    rw [hvalue]
    exact .done _ _

theorem reads_signedYear {n : Int} {rest : List Char} (hrest : EndsNumber rest) :
    Reads signedYear (year n ++ rest) n rest := by
  unfold year
  by_cases h : 0 ≤ n ∧ n ≤ 9999
  · have hn : (n.toNat : Int) = n := by omega
    have hread := reads_unsignedYear rest (show n.toNat ≤ 9999 by omega)
    rw [if_pos h]
    rwa [hn] at hread
  have hdigits : Reads (digits (padded 4 n.natAbs ++ rest).length) (padded 4 n.natAbs ++ rest)
      (padded 4 n.natAbs) rest :=
    reads_digits (fun _ => isDigit_of_mem_padded) (padded_ne_nil 4 n.natAbs) (by simp) (.inr hrest)
  rw [if_neg h]
  by_cases hneg : n < 0
  · have hn : -(n.natAbs : Int) = n := by omega
    rw [if_pos hneg]
    refine .bind (reads_skipBlanks (by decide)) (.bind (.get _) (.bind (.set _ _)
      (.bind hdigits ?_)))
    rw [value_padded, hn]
    exact .done _ _
  · have hn : (n.natAbs : Int) = n := by omega
    rw [if_neg hneg]
    refine .bind (reads_skipBlanks (by decide)) (.bind (.get _) (.bind (.set _ _)
      (.bind hdigits ?_)))
    rw [value_padded, hn]
    exact .done _ _

/-! ## Fractions of a second -/

theorem reads_nanoseconds_digits {width n nanos : Nat} {rest : List Char} (hpos : 0 < width)
    (hwidth : width ≤ 9) (hn : n < 10 ^ width) (hnanos : 10 ^ (9 - width) * n = nanos)
    (hrest : EndsNumber rest) :
    Reads nanoseconds ('.' :: padded width n ++ rest) nanos rest := by
  have hlength := length_padded hpos hn
  have hvalue : value ((padded width n).rightpad 9 '0') = nanos := by
    rw [value, List.rightpad, hlength, natural?_append_zeros, hnanos]
    rfl
  have hdrop := dropWhile_digits (List.forall_mem_nil (Char.isDigit · = true)) hrest
  rw [List.nil_append] at hdrop
  unfold nanoseconds
  refine .bind (.get _) (.bind (.set _ _) (.bind (reads_digits (fun _ => isDigit_of_mem_padded)
    (padded_ne_nil width n) (by omega) (.inr hrest)) (.bind (.modify _ _) ?_)))
  rw [hdrop, hvalue]
  exact .done _ _

theorem reads_nanoseconds {n : Nat} {c : Char} {rest : List Char} (hn : n < 1000000000)
    (hpoint : c ≠ '.') (hdigit : c.isDigit = false) :
    Reads nanoseconds (fraction n ++ c :: rest) n (c :: rest) := by
  have hrest : EndsNumber (c :: rest) := endsNumber_cons hdigit
  unfold fraction
  by_cases hzero : n = 0
  · rw [if_pos hzero, hzero]
    unfold nanoseconds
    refine .bind (.get _) ?_
    split
    · next heq => exact absurd (List.cons.inj heq).1 hpoint
    · exact .done _ _
  rw [if_neg hzero]
  by_cases hmilli : n % 1000000 = 0
  · rw [if_pos hmilli]
    exact reads_nanoseconds_digits (by decide) (by decide) (by omega)
      (Nat.mul_div_cancel' (Nat.dvd_of_mod_eq_zero hmilli)) hrest
  rw [if_neg hmilli]
  by_cases hmicro : n % 1000 = 0
  · rw [if_pos hmicro]
    exact reads_nanoseconds_digits (by decide) (by decide) (by omega)
      (Nat.mul_div_cancel' (Nat.dvd_of_mod_eq_zero hmicro)) hrest
  · rw [if_neg hmicro]
    exact reads_nanoseconds_digits (by decide) (by decide) hn (Nat.one_mul n) hrest

/-! ## Whole times -/

theorem reads_separator (cs : List Char) : Reads separator ('T' :: cs) () cs :=
  .bind (.get _) (.set _ _)

theorem reads_offset : Reads offset ['Z'] 0 [] := rfl

theorem seconds_eq (t : Instant) :
    t.date.toDays * 86400 + t.hour * 3600 + t.minute * 60 + (t.secondOfDay % 60 : Nat) =
      t.seconds := by
  have hdays : t.date.toDays = t.seconds / 86400 := Date.toDays_ofDays _
  unfold Instant.hour Instant.minute Instant.secondOfDay
  omega

theorem second_parts (t : Instant) :
    (if t.second = 60 then (59, t.subsecond + 1000000000) else (t.second, t.subsecond)) =
      (t.secondOfDay % 60, t.nanos) := by
  -- Second 60 is second 59 with a billion nanoseconds more.
  have hleap := t.leap
  have hnanos := t.nanos_lt
  unfold Instant.second Instant.subsecond Instant.isLeap Instant.secondOfDay
  by_cases h : 1000000000 ≤ t.nanos
  · have h59 := hleap h
    have hsecond : (t.seconds % 86400).toNat % 60 = 59 := by omega
    have hsub : t.nanos % 1000000000 + 1000000000 = t.nanos := by omega
    simp [h, hsecond, hsub]
  · have hsecond : (t.seconds % 86400).toNat % 60 ≠ 60 := by omega
    have hsub : t.nanos % 1000000000 = t.nanos := by omega
    simp [h, hsecond, hsub]

theorem ofParts?_seconds (t : Instant) : Instant.ofParts? t.seconds t.nanos = some t := by
  unfold Instant.ofParts?
  rw [dif_pos ⟨t.first_le, t.le_last, t.nanos_lt, t.leap⟩]

theorem date_bounds (t : Instant) :
    yearRange t.date.year = true ∧ t.date.isValid = true ∧
      (1 ≤ t.date.month ∧ t.date.month ≤ 12) ∧ 1 ≤ t.date.day ∧ t.date.day ≤ 31 := by
  have hvalid : t.date.isValid = true := Date.isValid_ofDays (t.seconds / 86400)
  have hfirst := t.first_le
  have hlast := t.le_last
  have hyear : -262143 ≤ t.date.year ∧ t.date.year ≤ 262142 :=
    Date.year_ofDays (by omega) (by omega)
  have hparts := hvalid
  simp only [Date.isValid, Bool.and_eq_true, decide_eq_true_eq] at hparts
  obtain ⟨⟨hmonth, hday⟩, hdays⟩ := hparts
  have hlong : Date.daysInMonth t.date.year t.date.month ≤ 31 := by
    unfold Date.daysInMonth
    repeat' split
    all_goals omega
  refine ⟨by simpa [yearRange] using hyear, hvalid, hmonth, hday, ?_⟩
  omega

theorem time_bounds (t : Instant) :
    t.hour ≤ 23 ∧ t.minute ≤ 59 ∧ t.second ≤ 60 ∧ t.subsecond < 1000000000 := by
  unfold Instant.hour Instant.minute Instant.second Instant.secondOfDay Instant.subsecond
  refine ⟨by omega, by omega, ?_, by omega⟩
  split <;> omega

theorem reads_instant (t : Instant) : Reads instant (print t) t [] := by
  obtain ⟨hyear, hvalid, ⟨hmonth1, hmonth12⟩, hday1, hday31⟩ := date_bounds t
  obtain ⟨hhour, hminute, hsecond, hsubsecond⟩ := time_bounds t
  simp only [print, date, timeOfDay, List.append_assoc, List.cons_append]
  unfold instant
  refine .bind (reads_signedYear (endsNumber_cons rfl)) ?_
  refine .bind (reads_skipBlanks (by decide)) (.bind (reads_expect _ _) ?_)
  refine .bind (reads_field _ (by decide) (by omega) hmonth1 hmonth12) ?_
  refine .bind (reads_skipBlanks (by decide)) (.bind (reads_expect _ _) ?_)
  refine .bind (reads_field _ (by decide) (by omega) hday1 hday31) ?_
  refine .bind (reads_separator _) ?_
  refine .bind (reads_field _ (by decide) (by omega) (Nat.zero_le _) hhour) ?_
  refine .bind (reads_skipBlanks (by decide)) (.bind (reads_expect _ _) ?_)
  refine .bind (reads_field _ (by decide) (by omega) (Nat.zero_le _) hminute) ?_
  refine .bind (reads_skipBlanks (by decide)) (.bind (reads_expect _ _) ?_)
  refine .bind (reads_field _ (by decide) (by omega) (Nat.zero_le _) hsecond) ?_
  refine .bind (reads_nanoseconds hsubsecond (by decide) (by decide)) ?_
  refine .bind (reads_skipBlanks (by decide)) (.bind reads_offset ?_)
  have hdate : (⟨t.date.year, t.date.month, t.date.day⟩ : Date) = t.date := rfl
  simp only [hdate, hyear, hvalid, Bool.not_true, Bool.or_self, Bool.false_eq_true, if_false]
  rw [second_parts, Int.sub_zero, seconds_eq, ofParts?_seconds]
  rfl

theorem parse_print (t : Instant) : parse (String.ofList (print t)) = some t := by
  unfold parse
  rw [String.toList_ofList, reads_instant t]
  rfl

end WorkerMemory.Rfc3339
