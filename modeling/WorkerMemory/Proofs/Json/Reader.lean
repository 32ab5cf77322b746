import Mathlib.Tactic.SplitIfs
import WorkerMemory.Json.Reader
import WorkerMemory.Json.Writer
import WorkerMemory.Proofs.Text.Numeral
import WorkerMemory.Proofs.Text.Reader

/-! # Written JSON is read back -/

namespace WorkerMemory.Json.Reader

open Text Numeral

variable {α σ : Type} {cs rest : List Char} {c : Char}

/-! ## Single characters -/

theorem reads_peek (cs : List Char) : Reads peek cs cs.head? cs := .bind (.get _) (.done _ _)

theorem reads_skip (c : Char) (cs : List Char) : Reads skip (c :: cs) () cs := .modify List.tail _

theorem reads_expect (c : Char) (cs : List Char) : Reads (expect c) (c :: cs) () cs := by
  unfold expect
  refine .bind (reads_peek _) ?_
  rw [List.head?_cons, if_pos rfl]
  exact reads_skip c cs

theorem reads_word (cs rest : List Char) : Reads (word cs) (cs ++ rest) () rest := by
  unfold word
  induction cs with
  | nil => exact .done _ _
  | cons c cs ih => exact .bind (reads_expect c _) ih

theorem reads_skipBlanks (h : isBlank c = false) : Reads skipBlanks (c :: cs) () (c :: cs) := by
  have hdrop : (c :: cs).dropWhile isBlank = c :: cs := by simp [h]
  have hskip := Reads.modify (m := Except Fault) (List.dropWhile isBlank) (c :: cs)
  rwa [hdrop] at hskip

theorem reads_blanksThen (h : isBlank c = false) : Reads (blanksThen c) (c :: cs) () cs :=
  .bind (reads_skipBlanks h) (reads_expect c cs)

/-! ## Strings -/

theorem naturalIn?_control : ∀ n < 0x20,
    naturalIn? 16 ['0', '0', (n / 16).digitChar, (n % 16).digitChar] = some n ∧
      ¬ (String.ofList ['0', '0', (n / 16).digitChar, (n % 16).digitChar]).utf8ByteSize < 4 := by
  decide

theorem reads_escape_control {n : Nat} (h : n < 0x20) :
    Reads escape ('u' :: '0' :: '0' :: (n / 16).digitChar :: (n % 16).digitChar :: rest)
      (Char.ofNat n) rest := by
  obtain ⟨hvalue, hsize⟩ := naturalIn?_control n h
  have hhex : Reads fourHex ('0' :: '0' :: (n / 16).digitChar :: (n % 16).digitChar :: rest) n
      rest := by
    unfold fourHex
    refine .bind (.get _) ?_
    simp only [List.take_succ_cons, List.take_zero, hvalue, hsize, if_false]
    exact .bind (.modify _ _) (.done _ _)
  have hlow : isLowSurrogate n = false := by
    simp [isLowSurrogate]
    omega
  have hhigh : isHighSurrogate n = false := by
    simp [isHighSurrogate]
    omega
  unfold escape
  refine .bind (reads_peek _) (.bind (reads_skip _ _) ?_)
  unfold unicodeEscape
  refine .bind hhex ?_
  simp only [hlow, hhigh, Bool.false_eq_true, if_false]
  exact .done _ _

theorem reads_escape {meant : Char} (h : plainEscape? c = some meant) (hu : c ≠ 'u') :
    Reads escape (c :: cs) meant cs := by
  unfold escape
  refine .bind (reads_peek _) ?_
  simp only [List.head?_cons, h]
  exact .bind (reads_skip _ _) (.done _ _)

theorem reads_stringBody_cons {room : Nat} {read : List Char} (c : Char)
    (h : Reads (stringBody room) cs read rest) :
    Reads (stringBody (room + 1)) (escaped c ++ cs) (c :: read) rest := by
  have hescape {d : Char} {cs' : List Char} (hd : Reads escape (d :: cs') c cs) :
      Reads (stringBody (room + 1)) ('\\' :: d :: cs') (c :: read) rest := by
    rw [stringBody]
    exact .bind (reads_peek _) (.bind (reads_skip _ _) (.bind hd (.bind h (.done _ _))))
  unfold escaped
  split_ifs with hquote hback hbackspace hfeed hline hreturn htab hcontrol
  · exact hescape (reads_escape (by rw [hquote]; rfl) (by decide))
  · exact hescape (reads_escape (by rw [hback]; rfl) (by decide))
  · exact hescape (reads_escape (by rw [hbackspace]; rfl) (by decide))
  · exact hescape (reads_escape (by rw [hfeed]; rfl) (by decide))
  · exact hescape (reads_escape (by rw [hline]; rfl) (by decide))
  · exact hescape (reads_escape (by rw [hreturn]; rfl) (by decide))
  · exact hescape (reads_escape (by rw [htab]; rfl) (by decide))
  · have hcode : Reads escape _ (Char.ofNat c.toNat) cs := reads_escape_control hcontrol
    rw [Char.ofNat_toNat] at hcode
    exact hescape hcode
  · rw [stringBody]
    refine .bind (reads_peek _) ?_
    simp only [List.cons_append, List.nil_append, List.head?_cons]
    rw [if_neg hcontrol]
    exact .bind (reads_skip _ _) (.bind h (.done _ _))

theorem reads_stringBody (cs rest : List Char) {room : Nat} (h : cs.length < room) :
    Reads (stringBody room) (cs.flatMap escaped ++ '"' :: rest) cs rest := by
  induction cs generalizing room with
  | nil =>
    obtain ⟨room, rfl⟩ := Nat.exists_eq_add_one.mpr h
    rw [stringBody]
    exact .bind (reads_peek _) (.bind (reads_skip _ _) (.done _ _))
  | cons c cs ih =>
    obtain ⟨room, rfl⟩ := Nat.exists_eq_add_one.mpr (Nat.zero_lt_of_lt h)
    rw [List.flatMap_cons, List.append_assoc]
    exact reads_stringBody_cons c (ih (Nat.lt_of_succ_lt_succ h))

theorem length_le_flatMap_escaped (cs : List Char) : cs.length ≤ (cs.flatMap escaped).length := by
  have hpos (c : Char) : 1 ≤ (escaped c).length := by
    unfold escaped
    split_ifs <;> simp
  induction cs with
  | nil => exact Nat.le_refl 0
  | cons c cs ih =>
    rw [List.flatMap_cons, List.length_append, List.length_cons]
    have hc := hpos c
    omega

theorem reads_afterQuote (s : String) (rest : List Char) :
    Reads afterQuote (s.toList.flatMap escaped ++ '"' :: rest) s rest := by
  have hlength := length_le_flatMap_escaped s.toList
  unfold afterQuote
  refine .bind (.get _) (.bind (reads_stringBody s.toList rest ?_) ?_)
  · simp only [List.length_append]
    omega
  · rw [String.ofList_toList]
    exact .done _ _

theorem ofString_append (s : String) (rest : List Char) :
    ofString s ++ rest = '"' :: (s.toList.flatMap escaped ++ '"' :: rest) := by
  simp [ofString, ofChars]

theorem reads_string (s : String) (rest : List Char) :
    Reads string (ofString s ++ rest) s rest := by
  rw [ofString_append]
  unfold string
  exact .bind (reads_skipBlanks rfl) (.bind (reads_peek _) (.seqRight (reads_skip _ _)
    (reads_afterQuote s rest)))

/-! ## Numbers -/

theorem foldl_push {digits : List Char} {n : Nat} (hdigits : ∀ c ∈ digits, c.isDigit)
    (fits : Nat.ofDigitChars 10 digits n < UInt64.size) :
    (digits.filterMap digit?).foldl Number.Partial.push { significand := n } =
      { significand := Nat.ofDigitChars 10 digits n } := by
  induction digits generalizing n with
  | nil => simp
  | cons c digits ih =>
    rw [List.forall_mem_cons] at hdigits
    rw [Nat.ofDigitChars_cons] at fits ⊢
    -- Further digits only make it larger, so nothing is shifted out yet.
    have hfits : ¬ UInt64.size ≤ 10 * n + (c.toNat - '0'.toNat) := by
      have hle := le_ofDigitChars digits (10 * n + (c.toNat - '0'.toNat))
      omega
    rw [List.filterMap_cons_some (by rw [digit?, if_pos hdigits.1]), List.foldl_cons,
      Number.Partial.push]
    simp only [Bool.false_or, decide_eq_true_eq, hfits, if_false]
    exact ih hdigits.2 fits

theorem reads_someDigits {digits : List Char} (hdigits : ∀ c ∈ digits, c.isDigit)
    (hne : digits ≠ []) (hrest : EndsNumber rest) :
    Reads someDigits (digits ++ rest) (digits.filterMap digit?) rest := by
  have htake : Reads takeDigits (digits ++ rest) (digits.filterMap digit?) rest := by
    unfold takeDigits
    refine .bind (.get _) ?_
    rw [takeWhile_digits hdigits hrest, dropWhile_digits hdigits hrest]
    exact .bind (.set _ _) (.done _ _)
  unfold someDigits
  refine .bind htake ?_
  split
  · next heq =>
    obtain ⟨c, cs, rfl⟩ := List.exists_cons_of_ne_nil hne
    have hdigit := List.filterMap_eq_nil_iff.mp heq c List.mem_cons_self
    rw [digit?, if_pos (hdigits c List.mem_cons_self)] at hdigit
    contradiction
  · exact .done _ _

/-- After a value comes the next one, or the end of the object. -/
def EndsValue (rest : List Char) : Prop := rest.head? = some ',' ∨ rest.head? = some '\x7d'

theorem EndsValue.endsNumber (h : EndsValue rest) : EndsNumber rest := by
  rcases h with h | h <;> simp [EndsNumber, h]

theorem reads_numberTail {isNegative : Bool} {p : Number.Partial} {n : Number}
    (h : Number.ofInteger isNegative p = some n) (hrest : EndsValue rest) :
    Reads (numberTail isNegative p) rest n rest := by
  have hpoint : rest.head? ≠ some '.' := by rcases hrest with h | h <;> simp [h]
  have hexponent : isExponentMark rest.head? = false := by
    rcases hrest with h | h <;> simp [h, isExponentMark]
  unfold numberTail
  refine .bind (reads_peek _) ?_
  simp only [hpoint, decide_false, if_false]
  refine .bind (.done _ _) (.bind (reads_peek _) ?_)
  simp only [hexponent, Bool.false_eq_true, if_false]
  refine .bind (.done _ _) ?_
  simp only [Bool.or_self, Bool.false_eq_true, if_false, h]
  exact .done _ _

theorem eq_zero_of_digit? (h : digit? c = some 0) : c = '0' := by
  obtain ⟨hdigit, hvalue⟩ := Option.ite_none_right_eq_some.mp h
  have hrange : 48 ≤ c.toNat := by
    simp only [Char.isDigit, Bool.and_eq_true, decide_eq_true_eq] at hdigit
    exact UInt32.le_iff_toNat_le.mp hdigit.1
  have hcode : c.toNat - 48 = 0 := Option.some.inj hvalue
  apply Char.toNat_inj.mp
  change c.toNat = 48
  omega

theorem no_leading_zero (k d : Nat) (ds : List Nat) :
    (Numeral.ofNat k).filterMap digit? ≠ 0 :: d :: ds := by
  intro heq
  obtain ⟨passed, c, cs, hcs, hpassed, hzero, hrest⟩ := List.filterMap_eq_cons_iff.mp heq
  have hnil : passed = [] := by
    apply List.eq_nil_iff_forall_not_mem.mpr
    intro p hp
    have hdigit : p.isDigit := isDigit_of_mem_ofNat (n := k) (by rw [hcs]; simp [hp])
    have hnone := hpassed p hp
    rw [digit?, if_pos hdigit] at hnone
    contradiction
  obtain rfl := eq_zero_of_digit? hzero
  rw [hnil, List.nil_append] at hcs
  by_cases hk : k = 0
  · rw [hk] at hcs
    obtain ⟨-, rfl⟩ := List.cons.inj hcs
    contradiction
  · exact head?_ofNat_ne_zero (Nat.pos_of_ne_zero hk) (by rw [hcs]; rfl)

theorem reads_afterSign {isNegative : Bool} {k : Nat} {n : Number} (fits : k < UInt64.size)
    (h : Number.ofInteger isNegative { significand := k } = some n) (hrest : EndsValue rest) :
    Reads (afterSign isNegative) (Numeral.ofNat k ++ rest) n rest := by
  have hdigits : ∀ c ∈ Numeral.ofNat k, c.isDigit := fun _ => isDigit_of_mem_ofNat
  have hvalue : Nat.ofDigitChars 10 (Numeral.ofNat k) 0 = k := Nat.ofDigitChars_ten_toDigits
  have hpush := foldl_push hdigits (n := 0) (by rwa [hvalue])
  rw [hvalue] at hpush
  unfold afterSign
  refine .bind (reads_someDigits hdigits (ofNat_ne_nil k) hrest.endsNumber) ?_
  split
  · next heq => exact absurd heq (no_leading_zero k _ _)
  · rw [hpush]
    exact reads_numberTail h hrest

/-- The integers that are read exactly. -/
def InRange (z : Int) : Prop := Int64.minValue.toInt ≤ z ∧ z < UInt64.size

theorem inRange_uint64 (n : UInt64) : InRange n.toNat := by
  have hmin : Int64.minValue.toInt = -9223372036854775808 := rfl
  exact ⟨by omega, Int.ofNat_lt.mpr n.toNat_lt⟩

theorem inRange_uint32 (n : UInt32) : InRange n.toNat := by
  have hmin : Int64.minValue.toInt = -9223372036854775808 := rfl
  have hsize : UInt64.size = 18446744073709551616 := rfl
  have hlt := n.toNat_lt
  exact ⟨by omega, by omega⟩

theorem inRange_int64 (n : Int64) : InRange n.toInt := by
  have hsize : UInt64.size = 18446744073709551616 := rfl
  have hlt := n.toInt_lt
  exact ⟨n.minValue_le_toInt, by omega⟩

theorem reads_number {z : Int} (range : InRange z) (hrest : EndsValue rest) :
    Reads number (Json.ofInt z ++ rest) (.int z) rest := by
  obtain ⟨first, last⟩ := range
  unfold number Json.ofInt
  refine .bind (reads_peek _) ?_
  cases z with
  | ofNat k =>
    rw [Numeral.ofInt]
    have hminus : (Numeral.ofNat k ++ rest).head? ≠ some '-' := by
      obtain ⟨c, cs, heq, hc⟩ := exists_ofNat_eq_cons k
      rw [heq, List.cons_append, List.head?_cons]
      intro h
      rw [Option.some.inj h] at hc
      exact absurd hc (by decide)
    rw [if_neg hminus]
    exact reads_afterSign (Int.ofNat_lt.mp last) rfl hrest
  | negSucc k =>
    rw [Numeral.ofInt, List.cons_append, List.head?_cons, if_pos rfl]
    have hmin : Int64.minValue.toInt = -9223372036854775808 := rfl
    have hsize : UInt64.size = 18446744073709551616 := rfl
    have hneg : -((k + 1 : Nat) : Int) = Int.negSucc k := rfl
    refine .bind (reads_skip _ _) (reads_afterSign (by omega) ?_ hrest)
    have hfits : 0 < k + 1 ∧ Int64.minValue.toInt ≤ -((k + 1 : Nat) : Int) :=
      ⟨Nat.succ_pos k, Int.le_trans first (Int.le_of_eq hneg.symm)⟩
    simp only [Number.ofInteger, Bool.false_eq_true, if_false, if_true]
    rw [if_pos hfits, hneg]

/-! ## Values -/

theorem ne_of_isNumberStart {d : Char} (h : isNumberStart c = true)
    (hd : isNumberStart d = false) : c ≠ d := by
  rintro rfl
  rw [h] at hd
  contradiction

theorem isBlank_of_isNumberStart (h : isNumberStart c = true) : isBlank c = false := by
  have hne (d : Char) (hd : isNumberStart d = false) : c ≠ d := ne_of_isNumberStart h hd
  simp [isBlank, hne ' ' rfl, hne '\n' rfl, hne '\t' rfl, hne '\r' rfl]

theorem exists_ofInt_eq_cons (z : Int) :
    ∃ c cs, Json.ofInt z = c :: cs ∧ isNumberStart c = true := by
  cases z with
  | ofNat k =>
    obtain ⟨c, cs, heq, hc⟩ := exists_ofNat_eq_cons k
    exact ⟨c, cs, heq, by simp [isNumberStart, hc]⟩
  | negSucc k => exact ⟨'-', _, rfl, rfl⟩

theorem reads_integer {z : Int} (range : InRange z) (hrest : EndsValue rest) :
    Reads integer (Json.ofInt z ++ rest) z rest := by
  obtain ⟨c, cs, heq, hc⟩ := exists_ofInt_eq_cons z
  have hnumber := reads_number range hrest
  rw [heq] at hnumber ⊢
  unfold integer
  refine .bind (reads_skipBlanks (isBlank_of_isNumberStart hc)) (.bind (reads_peek _) ?_)
  simp only [List.head?_cons, Option.any_some, hc, if_true]
  exact .bind hnumber (.done _ _)

theorem reads_fitting {fit? : Int → Option α} {z : Int} {a : α} (range : InRange z)
    (h : fit? z = some a) (hrest : EndsValue rest) :
    Reads (fitting fit?) (Json.ofInt z ++ rest) a rest := by
  unfold fitting
  refine .bind (reads_integer range hrest) ?_
  rw [h]
  exact .done _ _

theorem ofInt_natCast (n : Nat) : Json.ofInt n = Json.ofNat n := rfl

theorem reads_uint64 (n : UInt64) (hrest : EndsValue rest) :
    Reads uint64 (Json.ofNat n.toNat ++ rest) n rest :=
  reads_fitting (inRange_uint64 n) (Integer.uint64?_toNat n) hrest

theorem reads_uint32 (n : UInt32) (hrest : EndsValue rest) :
    Reads uint32 (Json.ofNat n.toNat ++ rest) n rest :=
  reads_fitting (inRange_uint32 n) (Integer.uint32?_toNat n) hrest

theorem reads_int64 (n : Int64) (hrest : EndsValue rest) :
    Reads int64 (Json.ofInt n.toInt ++ rest) n rest :=
  reads_fitting (inRange_int64 n) (Integer.int64?_toInt n) hrest

theorem reads_bool (b : Bool) (rest : List Char) : Reads bool (ofBool b ++ rest) b rest := by
  unfold bool
  cases b
  · exact .bind (reads_skipBlanks rfl) (.bind (reads_peek _) (.seqRight (reads_word _ rest)
      (.done _ _)))
  · exact .bind (reads_skipBlanks rfl) (.bind (reads_peek _) (.seqRight (reads_word _ rest)
      (.done _ _)))

theorem reads_parsed {parse : String → Option α} {a : α} (text : List Char)
    (h : parse (String.ofList text) = some a) (rest : List Char) :
    Reads (parsed parse) (ofChars text ++ rest) a rest := by
  have hstring := reads_string (String.ofList text) rest
  rw [ofString, String.toList_ofList] at hstring
  unfold parsed
  refine .bind hstring ?_
  rw [h]
  exact .done _ _

theorem reads_nullable {read : Reader α} {a : α} (hnull : c ≠ 'n') (hblank : isBlank c = false)
    (h : Reads read (c :: cs) a rest) : Reads (nullable read) (c :: cs) (some a) rest := by
  unfold nullable
  refine .bind (reads_skipBlanks hblank) (.bind (reads_peek _) ?_)
  split
  · next heq => exact absurd (Option.some.inj heq) hnull
  · exact .bind h (.done _ _)

theorem reads_null (read : Reader α) (rest : List Char) :
    Reads (nullable read) (null ++ rest) none rest := by
  unfold nullable
  exact .bind (reads_skipBlanks rfl) (.bind (reads_peek _) (.seqRight (reads_word _ rest)
    (.done _ _)))

theorem reads_nullable_string (s : String) (rest : List Char) :
    Reads (nullable string) (ofString s ++ rest) (some s) rest :=
  reads_nullable (by decide) rfl (reads_string s rest)

theorem reads_optional_string (s : Option String) (rest : List Char) :
    Reads (nullable string) (ofOption ofString s ++ rest) s rest := by
  cases s with
  | none => exact reads_null string rest
  | some s => exact reads_nullable_string s rest

theorem reads_nullable_uint64 (n : UInt64) (hrest : EndsValue rest) :
    Reads (nullable uint64) (Json.ofNat n.toNat ++ rest) (some n) rest := by
  have hread := reads_uint64 n hrest
  obtain ⟨c, cs, heq, hc⟩ := exists_ofInt_eq_cons (n.toNat : Int)
  rw [ofInt_natCast] at heq
  rw [heq] at hread ⊢
  exact reads_nullable (ne_of_isNumberStart hc rfl) (isBlank_of_isNumberStart hc) hread

end WorkerMemory.Json.Reader
