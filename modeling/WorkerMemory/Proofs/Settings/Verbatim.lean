import WorkerMemory.Proofs.Decimal.RoundTrip
import WorkerMemory.Proofs.Settings.Shadowing

/-! # Texts from the environment

A variable that reads as a truth value or as a number becomes one, and is printed again where its
setting is a text. So such a setting gets another spelling than the variable has, unless that is the
one in which it is printed. Any other text arrives as it is.
-/

namespace WorkerMemory

open Text

/-! ## Truth values -/

/-- Only the Kelvin sign tells the two kinds of lower case apart. -/
theorem lower_eq_iff {cs word : List Char} (hk : 'k' ∉ word) (hkelvin : '\u212a' ∉ word) :
    lower cs = word ↔ asciiLower cs = word := by
  by_cases hmem : '\u212a' ∈ cs
  · constructor
    · rintro rfl
      exact absurd (List.mem_map.mpr ⟨_, hmem, rfl⟩) hk
    · rintro rfl
      exact absurd (List.mem_map.mpr ⟨_, hmem, rfl⟩) hkelvin
  · have hsame : lower cs = asciiLower cs := by
      unfold lower asciiLower
      apply List.map_congr_left
      rintro c hc
      rw [letterLower, if_neg]
      rintro rfl
      exact hmem hc
    rw [hsame]

/-- A truth value in letters of either case. -/
def IsWord (v : String) (b : Bool) : Prop := folded v = toString b

theorem isWord_iff {v : String} {b : Bool} :
    IsWord v b ↔ String.ofList (lower v.toList) = toString b := by
  have hword : 'k' ∉ (toString b).toList ∧ '\u212a' ∉ (toString b).toList := by
    cases b <;> decide
  have hlists (cs : List Char) : String.ofList cs = toString b ↔ cs = (toString b).toList := by
    rw [← String.toList_inj, String.toList_ofList]
  rw [IsWord, folded, hlists, hlists, lower_eq_iff hword.1 hword.2]

/-! ## Numbers -/

/-- A whole number that 63 bits and a sign hold. -/
def IsInteger (v : String) (n : Int64) : Prop := Numeral.Signed v.toList n.toInt

/-- Any other number. -/
def IsFloat (v : String) (x : Float) : Prop :=
  Decimal.Spells v.toList x ∧ ∀ n, ¬ IsInteger v n

/-- Neither a truth value nor a number. -/
def IsPlainText (v : String) : Prop :=
  (∀ b, ¬ IsWord v b) ∧ ∀ x, ¬ Decimal.Spells v.toList x

theorem int64?_eq_none_iff {v : String} :
    Numeral.int64? v.toList = none ↔ ∀ n, ¬ IsInteger v n := by
  rw [Option.eq_none_iff_forall_ne_some]
  exact forall_congr' fun n => not_congr Numeral.int64?_eq_some_iff

theorem float?_eq_none_iff {v : String} :
    Decimal.float? v.toList = none ↔ ∀ x, ¬ Decimal.Spells v.toList x := by
  rw [Option.eq_none_iff_forall_ne_some]
  exact forall_congr' fun x => not_congr Decimal.float?_eq_some_iff

theorem not_spells_of_isWord {v : String} {b : Bool} (h : IsWord v b) (x : Float) :
    ¬ Decimal.Spells v.toList x := by
  intro hx
  cases b with
  | true =>
    have hne : folded v ≠ "true" := hx.ne_word rfl rfl (by decide) (by decide) (by decide)
    exact hne h
  | false =>
    have hne : folded v ≠ "false" := hx.ne_word rfl rfl (by decide) (by decide) (by decide)
    exact hne h

theorem not_isWord_of_isInteger {v : String} {n : Int64} (h : IsInteger v n) (b : Bool) :
    ¬ IsWord v b := by
  obtain ⟨x, hx⟩ := Decimal.exists_spells_of_signed h
  exact fun hb => not_spells_of_isWord hb x hx

theorem toString_int (z : Int) : toString z = String.ofList (Numeral.ofInt z) := by
  cases z with
  | ofNat n => exact Nat.repr_eq_ofList_toDigits
  | negSucc n =>
    have hsign : (toString (Int.negSucc n)).toList = "-".toList ++ (n + 1).repr.toList :=
      String.toList_append
    rw [← String.toList_inj, String.toList_ofList, hsign, Nat.toList_repr]
    rfl

/-! ## What a text becomes -/

/-- What a setting gets that is a text. -/
inductive Arrives (v : String) : String → Prop
  | word {b : Bool} (h : IsWord v b) : Arrives v (toString b)
  | integer {n : Int64} (h : IsInteger v n) : Arrives v (String.ofList (Numeral.ofInt n.toInt))
  | float {x : Float} (h : IsFloat v x) : Arrives v (Decimal.ofFloat x)
  | text (h : IsPlainText v) : Arrives v v

namespace Loose

theorem guess_of_isWord {v : String} {b : Bool} (h : IsWord v b) : guess v = bool b := by
  rw [isWord_iff] at h
  unfold guess
  cases b with
  | true => exact if_pos h
  | false =>
    have hfalse : String.ofList (lower v.toList) = "false" := h
    simp [hfalse]

theorem guess_eq {v : String} (h : ∀ b, ¬ IsWord v b) :
    guess v = match Numeral.int64? v.toList with
      | some n => int n
      | none => match Decimal.float? v.toList with
        | some x => float x
        | none => text v := by
  have htrue : String.ofList (lower v.toList) ≠ "true" := fun heq => h true (isWord_iff.mpr heq)
  have hfalse : String.ofList (lower v.toList) ≠ "false" := fun heq =>
    h false (isWord_iff.mpr heq)
  exact (if_neg htrue).trans (if_neg hfalse)

theorem toText_guess {v t : String} (h : Arrives v t) : (guess v).toText = .ok t := by
  cases h with
  | word h => rw [guess_of_isWord h, toText]
  | integer h =>
    rw [guess_eq (not_isWord_of_isInteger h), Numeral.int64?_eq_some_iff.mpr h, ← toString_int]
    rfl
  | float h =>
    rw [guess_eq fun b hb => not_spells_of_isWord hb _ h.1, int64?_eq_none_iff.mpr h.2,
      Decimal.float?_eq_some_iff.mpr h.1]
    rfl
  | text h =>
    -- Whole numbers are read as floats too.
    have hint : ∀ n, ¬ IsInteger v n := fun n hn =>
      (Decimal.exists_spells_of_signed hn).elim h.2
    rw [guess_eq h.1, int64?_eq_none_iff.mpr hint, float?_eq_none_iff.mpr h.2]
    rfl

theorem exists_arrives (v : String) : ∃ t, Arrives v t := by
  by_cases hword : ∃ b, IsWord v b
  · exact hword.elim fun b h => ⟨_, .word h⟩
  · by_cases hint : ∃ n, IsInteger v n
    · exact hint.elim fun n h => ⟨_, .integer h⟩
    · rw [not_exists] at hword hint
      by_cases hfloat : ∃ x, Decimal.Spells v.toList x
      · exact hfloat.elim fun x h => ⟨_, .float ⟨h, hint⟩⟩
      · exact ⟨v, .text ⟨hword, not_exists.mp hfloat⟩⟩

theorem toText_guess_eq_ok_iff {v t : String} : (guess v).toText = .ok t ↔ Arrives v t := by
  constructor
  · intro h
    obtain ⟨t', harrives⟩ := exists_arrives v
    rw [toText_guess harrives] at h
    exact Except.ok.inj h ▸ harrives
  · exact toText_guess

end Loose

/-- The texts that values are printed as, and those that spell no value. Negative zero is printed as
a whole number, and this one is printed without a sign. -/
def IsPrinted (v : String) : Prop :=
  (∃ b : Bool, v = toString b) ∨ (∃ n : Int64, v = String.ofList (Numeral.ofInt n.toInt)) ∨
    (∃ x, v = Decimal.ofFloat x ∧ ∀ n, ¬ IsInteger v n) ∨ IsPlainText v

namespace Arrives

theorem unique {v t t' : String} (h : Arrives v t) (h' : Arrives v t') : t = t' := by
  rw [← Loose.toText_guess_eq_ok_iff] at h h'
  exact Except.ok.inj (h.symm.trans h')

theorem of_isPrinted {v : String} (h : IsPrinted v) : Arrives v v := by
  rcases h with ⟨b, rfl⟩ | ⟨n, rfl⟩ | ⟨x, rfl, hint⟩ | h
  · have hword : IsWord (toString b) b := by cases b <;> rfl
    exact .word hword
  · have hint : IsInteger (String.ofList (Numeral.ofInt n.toInt)) n := by
      rw [IsInteger, String.toList_ofList]
      exact Numeral.signed_ofInt _
    exact .integer hint
  · exact .float ⟨Decimal.spells_ofFloat x, hint⟩
  · exact .text h

theorem eq_iff {v t : String} (h : Arrives v t) : t = v ↔ IsPrinted v := by
  constructor
  · intro heq
    cases h with
    | @word b _ => exact .inl ⟨b, heq.symm⟩
    | @integer n _ => exact .inr (.inl ⟨n, heq.symm⟩)
    | float h => exact .inr (.inr (.inl ⟨_, heq.symm, h.2⟩))
    | text h => exact .inr (.inr (.inr h))
  · exact fun hprinted => h.unique (of_isPrinted hprinted)

theorem canonical {v t : String} (h : Arrives v t) :
    t = v ∨ (∃ b : Bool, t = toString b) ∨ Decimal.Canonical t.toList := by
  cases h with
  | @word b _ => exact .inr (.inl ⟨b, rfl⟩)
  | integer => exact .inr (.inr (String.toList_ofList ▸ Decimal.canonical_ofInt _))
  | float => exact .inr (.inr (Decimal.canonical_ofFloat _))
  | text => exact .inl rfl

end Arrives

/-! ## From the variable to the setting -/

theorem Layers.get?_setAll_environment {before after : List (String × String)}
    {name v setting : String} (plain : IsPlain setting)
    (key : Environment.key? name = some setting)
    (last : ∀ entry ∈ after, Environment.key? entry.1 ≠ some setting) (layers : Layers) :
    let all := layers.setAll Environment.origin (Environment.entries (before ++ (name, v) :: after))
    ∃ entry, all.get? setting = some entry ∧
      (entry.value = Loose.guess v ∨ entry.value.hasParts) := by
  have hfolded : folded setting = setting := Environment.folded_of_key? key
  have hentries : Environment.entries (before ++ (name, v) :: after) =
      Environment.entries before ++ (setting, Loose.guess v) :: Environment.entries after := by
    simp [Environment.entries, key]
  have hafter : ∀ entry ∈ Environment.entries after, folded entry.1 ≠ folded setting := by
    intro entry hentry heq
    obtain ⟨source, hsource, hkey, -⟩ := Environment.mem_entries_iff.mp hentry
    rw [Environment.folded_of_key? hkey, hfolded] at heq
    exact last source hsource (heq ▸ hkey)
  have hlast := get?_setAll_last plain (Loose.guess_ne_table v) hafter layers Environment.origin
    (Environment.entries before)
  rw [← hentries, hfolded] at hlast
  rcases hlast with hgiven | ⟨entry, hentry, hparts⟩
  · exact ⟨_, hgiven, .inl (Entry.value_ofSource _ _)⟩
  · exact ⟨entry, hentry, .inr hparts⟩

namespace Setting

/-- A setting that is a text, if it has one. -/
def text? (s : Settings) : Setting → Option String
  | program => some s.program
  | storage => some s.storage
  | logLevel => s.logLevel
  | logFile => s.logFile
  | intervalSecs => none

theorem isPlain_name (setting : Setting) : IsPlain setting.name := by
  cases setting <;> simp [IsPlain, name]

theorem toOptionalText_guess (v : String) :
    (Loose.guess v).toOptionalText = some <$> (Loose.guess v).toText := by
  fun_cases Loose.guess v <;> rfl

theorem text?_of_convert {setting : Setting} (textual : setting ≠ .intervalSecs) {v : String}
    {s : Settings} (h : setting.convert (Loose.guess v) = .ok (setting.get s)) :
    ∃ t, setting.text? s = some t ∧ Arrives v t := by
  have harrives {t : String} : (Loose.guess v).toText = .ok t → Arrives v t :=
    Loose.toText_guess_eq_ok_iff.mp
  have hoptional {text : Option String} (h : (Loose.guess v).toOptionalText = .ok text) :
      ∃ t, text = some t ∧ Arrives v t := by
    rw [toOptionalText_guess] at h
    obtain ⟨t, ht, hsome⟩ := exists_of_bind_eq_ok h
    exact ⟨t, (Except.ok.inj hsome).symm, harrives ht⟩
  cases setting with
  | program => exact ⟨_, rfl, harrives h⟩
  | storage => exact ⟨_, rfl, harrives h⟩
  | logLevel => exact hoptional h
  | logFile => exact hoptional h
  | intervalSecs => contradiction

end Setting

namespace Settings

/-- Whatever the file says, a text from the environment arrives as it is, unless it spells a truth
value or a number in another way than this is printed. -/
theorem load_text {files : Files} {environment : List (String × String)} {path : Option String}
    {s : Settings} (h : load files environment path = .ok s) {setting : Setting}
    (textual : setting ≠ .intervalSecs) {before after : List (String × String)} {name v : String}
    (given : environment = before ++ (name, v) :: after)
    (key : Environment.key? name = some setting.name)
    (last : ∀ entry ∈ after, Environment.key? entry.1 ≠ some setting.name) :
    ∃ t, setting.text? s = some t ∧ Arrives v t ∧ (t = v ↔ IsPrinted v) ∧
      (t = v ∨ (∃ b : Bool, t = toString b) ∨ Decimal.Canonical t.toList) := by
  rw [load_eq] at h
  obtain ⟨layers, -, hsources⟩ := exists_of_bind_eq_ok h
  have hsettings := (settings_of_ofSources hsources).1
  obtain ⟨entry, hentry, hvalue⟩ :=
    Layers.get?_setAll_environment setting.isPlain_name key last layers
  rw [← given] at hentry
  -- Nothing after it can have made a table or a list of it, or the settings were not read.
  have hguess : entry.value = Loose.guess v :=
    hvalue.resolve_right (Layers.not_hasParts_of_settings hsettings hentry)
  have hconvert := Layers.convert_of_settings hsettings hentry
  rw [hguess] at hconvert
  obtain ⟨t, ht, harrives⟩ := Setting.text?_of_convert textual hconvert
  exact ⟨t, ht, harrives, harrives.eq_iff, harrives.canonical⟩

/-- The last of two variables for the log file counts, over a list in the file. -/
theorem load_text_last :
    let before := [("worker_metrics_log_file", "a.log")]
    let after := [("WORKER_METRICS_PS_PROGRAM", "/bin/ps")]
    let environment := before ++ ("WORKER_METRICS_LOG_FILE", "+0012") :: after
    let files : Files := [(["m.toml"], .file "log_file = ['b.log']\nps_program = 'top'\n")]
    let s : Settings := { program := "/bin/ps", logFile := some "12" }
    load files environment (some "m.toml") = .ok s ∧
    Setting.logFile ≠ .intervalSecs ∧ Setting.program ≠ .intervalSecs ∧
    Environment.key? "WORKER_METRICS_LOG_FILE" = some Setting.logFile.name ∧
    (∀ entry ∈ after, Environment.key? entry.1 ≠ some Setting.logFile.name) ∧
    Environment.key? "WORKER_METRICS_PS_PROGRAM" = some Setting.program.name ∧
    Arrives "+0012" "12" ∧ ¬ IsPrinted "+0012" ∧ Arrives "/bin/ps" "/bin/ps" ∧
    IsPrinted "/bin/ps" := by
  intro before after environment files s
  let entries : List (String × Loose) :=
    [("ps_program", .text "top"), ("log_file", .list [.text "b.log"])]
  have hfind : SettingsFile.find files "m.toml" = .ok ⟨"m.toml", .toml, _⟩ := rfl
  have file : FileSays files (some "m.toml") "m.toml" entries := .found hfind rfl
  have h : load files environment (some "m.toml") = .ok s := by
    rw [load_of_fileSays file]
    exact eq_ok_of_toOption (by decide +kernel)
  have noNumber : Setting.logFile ≠ .intervalSecs := by decide
  have noNumber' : Setting.program ≠ .intervalSecs := by decide
  have key : Environment.key? "WORKER_METRICS_LOG_FILE" = some Setting.logFile.name := rfl
  have key' : Environment.key? "WORKER_METRICS_PS_PROGRAM" = some Setting.program.name := rfl
  have last : ∀ entry ∈ after, Environment.key? entry.1 ≠ some Setting.logFile.name := by decide
  obtain ⟨_, ⟨⟩, harrives, hprinted, -⟩ := load_text h noNumber rfl key last
  have given' : environment = (before ++ [("WORKER_METRICS_LOG_FILE", "+0012")]) ++
      ("WORKER_METRICS_PS_PROGRAM", "/bin/ps") :: [] := rfl
  obtain ⟨_, ⟨⟩, harrives', hprinted', -⟩ := load_text h noNumber' given' key' (by simp)
  exact ⟨h, noNumber, noNumber', key, last, key', harrives, mt hprinted.mpr (by decide), harrives',
    hprinted'.mp rfl⟩

/-- A truth value, a number beyond 63 bits and one with zeros in front get other spellings. -/
theorem load_spells_anew :
    load [] [
        ("WORKER_METRICS_PS_PROGRAM", "TRUE"),
        ("WORKER_METRICS_LOG_LEVEL", "9223372036854775808"),
        ("WORKER_METRICS_LOG_FILE", "007")] none =
      .ok {
        program := "true"
        logLevel := some "9223372036854776000"
        logFile := some "7" } ∧
    ¬ ∀ (v : String) (s : Settings),
      load [] [("WORKER_METRICS_LOG_FILE", v)] none = .ok s → s.logFile = some v := by
  refine ⟨rfl, fun verbatim => ?_⟩
  have h : load [] [("WORKER_METRICS_LOG_FILE", "007")] none = .ok { logFile := some "7" } := rfl
  exact absurd (verbatim _ _ h) (by decide)

end Settings

end WorkerMemory
