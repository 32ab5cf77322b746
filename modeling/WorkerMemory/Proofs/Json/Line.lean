import Mathlib.Tactic.SplitIfs
import WorkerMemory.Json.Writer
import WorkerMemory.Proofs.Text.Numeral
import WorkerMemory.Proofs.Text.Split

/-! # Written JSON stays on one line -/

namespace WorkerMemory.Json

open Text

theorem notMem_escape : ∀ n < 0x20,
    '\n' ∉ ['\\', 'u', '0', '0', (n / 16).digitChar, (n % 16).digitChar] := by
  decide

theorem notMem_escaped (c : Char) : '\n' ∉ escaped c := by
  unfold escaped
  split_ifs with hquote hback hbackspace hfeed hline hreturn htab hcontrol
  · decide
  · decide
  · decide
  · decide
  · decide
  · decide
  · decide
  · exact notMem_escape _ hcontrol
  · exact fun hmem => hline (List.mem_singleton.mp hmem).symm

theorem notMem_ofChars (cs : List Char) : '\n' ∉ ofChars cs := by
  have hbody : '\n' ∉ cs.flatMap escaped := by
    simp [notMem_escaped]
  simp [ofChars, hbody]

theorem notMem_ofNat (n : Nat) : '\n' ∉ ofNat n := Numeral.notMem_ofNat (by decide) n

theorem notMem_ofInt (z : Int) : '\n' ∉ ofInt z := Numeral.notMem_ofInt (by decide) (by decide) z

theorem notMem_ofBool (b : Bool) : '\n' ∉ ofBool b := by
  cases b <;> decide

theorem notMem_ofMembers {members : List (String × List Char)}
    (h : ∀ member ∈ members, '\n' ∉ member.2) : '\n' ∉ ofMembers members := by
  refine List.not_mem_append (List.not_mem_cons_of_ne_of_not_mem (by decide) ?_) (by decide)
  apply notMem_joinWith (by decide)
  intro part hpart
  obtain ⟨⟨name, value⟩, hmember, rfl⟩ := List.mem_map.mp hpart
  have hname := notMem_ofChars name.toList
  have hvalue := h _ hmember
  simpa [ofString] using ⟨hname, hvalue⟩

end WorkerMemory.Json
