import WorkerMemory.Json.Value
import WorkerMemory.Proofs.Json.Reader

/-! # Written values are read back as values of any shape -/

namespace WorkerMemory.Json.Reader

open Text

variable {cs rest : List Char} {depth : Nat}

theorem reads_value {v : Value}
    (h : ∀ room, Reads (valueWithin (nestingLimit - depth) (room + 1) []) cs v rest) :
    Reads (value depth) cs v rest := .bind (.get _) (h _)

theorem reads_closeWith (limit room : Nat) (v : Value) (cs : List Char) :
    Reads (closeWith limit room [] v) cs v cs := by
  rw [closeWith]
  exact .done _ _

theorem reads_value_number {z : Int} (range : InRange z) (hrest : EndsValue rest) :
    Reads (value depth) (Json.ofInt z ++ rest) (.number (.int z)) rest := by
  refine reads_value fun room => ?_
  obtain ⟨c, cs, heq, hc⟩ := exists_ofInt_eq_cons z
  have hnumber := reads_number range hrest
  rw [heq] at hnumber ⊢
  have hne (d : Char) (hd : isNumberStart d = false) : c ≠ d := ne_of_isNumberStart hc hd
  rw [valueWithin]
  refine .bind (reads_skipBlanks (isBlank_of_isNumberStart hc)) (.bind (reads_peek _) ?_)
  simp only [List.head?_cons]
  split
  · next heq => exact absurd (Option.some.inj heq) (hne 'n' rfl)
  · next heq => exact absurd (Option.some.inj heq) (hne 't' rfl)
  · next heq => exact absurd (Option.some.inj heq) (hne 'f' rfl)
  · next heq => exact absurd (Option.some.inj heq) (hne '"' rfl)
  · next heq => exact absurd (Option.some.inj heq) (hne '[' rfl)
  · next heq => exact absurd (Option.some.inj heq) (hne '\x7b' rfl)
  · next heq =>
    rw [← Option.some.inj heq, if_pos hc]
    exact .bind hnumber (reads_closeWith _ _ _ _)
  · contradiction

theorem reads_value_uint32 (n : UInt32) (hrest : EndsValue rest) :
    Reads (value depth) (Json.ofNat n.toNat ++ rest) (.number (.int n.toNat)) rest := by
  rw [← ofInt_natCast]
  exact reads_value_number (inRange_uint32 n) hrest

theorem reads_value_string (s : String) (rest : List Char) :
    Reads (value depth) (ofString s ++ rest) (.string s) rest := by
  refine reads_value fun room => ?_
  rw [valueWithin, ofString_append]
  exact .bind (reads_skipBlanks rfl) (.bind (reads_peek _) (.bind (reads_skip _ _)
    (.bind (reads_afterQuote s rest) (reads_closeWith _ _ _ _))))

theorem reads_value_bool (b : Bool) (rest : List Char) :
    Reads (value depth) (ofBool b ++ rest) (.bool b) rest := by
  refine reads_value fun room => ?_
  rw [valueWithin]
  cases b
  · exact .bind (reads_skipBlanks rfl) (.bind (reads_peek _) (.seqRight (reads_word _ rest)
      (reads_closeWith _ _ _ _)))
  · exact .bind (reads_skipBlanks rfl) (.bind (reads_peek _) (.seqRight (reads_word _ rest)
      (reads_closeWith _ _ _ _)))

end WorkerMemory.Json.Reader
