import WorkerMemory.Json.Record
import WorkerMemory.Proofs.Json.Reader

/-! # Written objects are read back

What is written member by member is read member by member, from one state to the next.
-/

namespace WorkerMemory.Json.Reader

open Text

variable {α σ : Type} {cs rest : List Char}

/-! ## Members of an object -/

/-- Read one after the other, the written members take one state to the other. -/
inductive ReadsMembers (member : String → σ → Reader σ) :
    σ → List (String × List Char) → σ → Prop
  | nil (s : σ) : ReadsMembers member s [] s
  | cons {name : String} {value : List Char} {written : List (String × List Char)} {s s' s'' : σ}
      (first : ∀ rest, EndsValue rest → Reads (member name s) (value ++ rest) s' rest)
      (others : ReadsMembers member s' written s'') :
      ReadsMembers member s ((name, value) :: written) s''

theorem ReadsMembers.append {member : String → σ → Reader σ} {s s' s'' : σ}
    {written written' : List (String × List Char)} (h : ReadsMembers member s written s')
    (h' : ReadsMembers member s' written' s'') :
    ReadsMembers member s (written ++ written') s'' := by
  induction h with
  | nil => exact h'
  | cons first _ ih => exact .cons first (ih h')

/-- The members after the first, each with a comma in front. -/
def others (written : List (String × List Char)) : List Char :=
  written.flatMap fun (name, value) => ',' :: ofString name ++ ':' :: value

theorem endsValue_others (written : List (String × List Char)) (rest : List Char) :
    EndsValue (others written ++ '\x7d' :: rest) := by
  cases written with
  | nil => exact .inr rfl
  | cons => exact .inl rfl

theorem ofMember_append (name : String) (value cs : List Char) :
    ofString name ++ ':' :: value ++ cs =
      '"' :: (name.toList.flatMap escaped ++ '"' :: ':' :: (value ++ cs)) := by
  rw [List.append_assoc, ofString_append, List.cons_append]

theorem length_le_length_others (written : List (String × List Char)) :
    written.length ≤ (others written).length := by
  induction written with
  | nil => exact Nat.le_refl 0
  | cons first written ih =>
    simp only [others, List.flatMap_cons, List.length_append, List.length_cons] at ih ⊢
    omega

theorem reads_nextMember {member : String → σ → Reader σ} {name : String} {value : List Char}
    {s s' s'' : σ} {room : Nat} (first : Reads (member name s) (value ++ cs) s' cs)
    (next : Reads (members member room false s') cs s'' rest) :
    Reads (do
        expect '"'
        let key ← afterQuote
        blanksThen ':'
        members member room false (← member key s))
      (ofString name ++ ':' :: value ++ cs) s'' rest := by
  rw [ofMember_append]
  refine .bind (reads_expect _ _) (.bind (reads_afterQuote name _) ?_)
  exact .bind (reads_blanksThen rfl) (.bind first next)

theorem reads_members_others {member : String → σ → Reader σ} {s s' : σ}
    {written : List (String × List Char)} (h : ReadsMembers member s written s') {room : Nat}
    (hroom : written.length < room) (rest : List Char) :
    Reads (members member room false s) (others written ++ '\x7d' :: rest) s' ('\x7d' :: rest) := by
  induction h generalizing room with
  | nil s =>
    obtain ⟨room, rfl⟩ := Nat.exists_eq_add_one.mpr hroom
    rw [members]
    exact .bind (reads_skipBlanks rfl) (.bind (reads_peek _) (.done _ _))
  | @cons name value written s s' s'' first h ih =>
    obtain ⟨room, rfl⟩ := Nat.exists_eq_add_one.mpr (Nat.zero_lt_of_lt hroom)
    have hothers : others ((name, value) :: written) ++ '\x7d' :: rest =
        ',' :: (ofString name ++ ':' :: value ++ (others written ++ '\x7d' :: rest)) := by
      simp [others]
    rw [hothers, members]
    refine .bind (reads_skipBlanks rfl) (.bind (reads_peek _) ?_)
    refine .bind (reads_expect _ _) (.bind (reads_skipBlanks rfl) ?_)
    exact reads_nextMember (first _ (endsValue_others _ _)) (ih (Nat.lt_of_succ_lt_succ hroom))

theorem reads_membersOf {member : String → σ → Reader σ} {s s' : σ} {name : String}
    {value : List Char} {written : List (String × List Char)}
    (h : ReadsMembers member s ((name, value) :: written) s') (rest : List Char) :
    Reads (membersOf member s)
      (ofString name ++ ':' :: value ++ (others written ++ '\x7d' :: rest)) s' ('\x7d' :: rest) := by
  cases h with
  | cons first h =>
    refine .bind (.get _) ?_
    rw [members]
    refine .bind (reads_skipBlanks rfl) (.bind (reads_peek _) ?_)
    refine reads_nextMember (first _ (endsValue_others _ _)) (reads_members_others h ?_ rest)
    have hlength := length_le_length_others written
    simp only [List.length_append, List.length_cons]
    omega

theorem ofMembers_cons (name : String) (value : List Char) (written : List (String × List Char)) :
    ofMembers ((name, value) :: written) =
      '\x7b' :: (ofString name ++ ':' :: value ++ (others written ++ ['\x7d'])) := by
  have hjoin (first : List Char) : joinWith ',' (first :: written.map fun (name, value) =>
      ofString name ++ ':' :: value) = first ++ others written := by
    induction written generalizing first with
    | nil => simp [joinWith, others]
    | cons next written ih =>
      rw [List.map_cons, joinWith, ih]
      · simp [others]
      · simp
  simp only [ofMembers, List.map_cons, hjoin, List.cons_append, List.append_assoc]

/-! ## Fields -/

theorem known_of_forall_ne {fields : List (Member σ)} {other : String → σ → Reader σ}
    {key : String} (h : ∀ field ∈ fields, field.name ≠ key) (s : σ) :
    known fields other key s = other key s := by
  have hfind : fields.find? (·.name == key) = none := by
    simpa [List.find?_eq_none] using h
  rw [known, hfind]

theorem reads_known {fields : List (Member σ)} {other : String → σ → Reader σ}
    {field : Member σ} {key : String} {s s' : σ}
    (hfind : fields.find? (·.name == key) = some field) (hset : field.isSet s = false)
    (h : Reads (field.read s) cs s' rest) : Reads (known fields other key s) cs s' rest := by
  unfold known
  rw [hfind]
  simp only [hset, Bool.false_eq_true, if_false]
  exact h

theorem readsMembers_optional {fields : List (Member σ)}
    {other : String → σ → Reader σ} {field : Member σ} {key : String}
    {read : Reader α} {write : α → List Char} (put : Option (Option α) → σ)
    (hfind : fields.find? (·.name == key) = some field) (hset : field.isSet (put none) = false)
    (hread : field.read (put none) = return put (some (← nullable read)))
    (hwrite : ∀ a rest, EndsValue rest → Reads (nullable read) (write a ++ rest) (some a) rest)
    (a : Option α) :
    ReadsMembers (known fields other) (put none) (a.map fun a => (key, write a)).toList
      (put (a.map some)) := by
  cases a with
  | none => exact .nil _
  | some a =>
    refine .cons (fun rest hrest => reads_known hfind hset ?_) (.nil _)
    rw [hread]
    exact .bind (hwrite a rest hrest) (.done _ _)

/-- An object is read if its members are and nothing is missing in the end. -/
theorem reads_object {fields : List (Member σ)} {other : String → σ → Reader σ} {start s : σ}
    {finish : σ → Except Fault α} {a : α} {name : String} {value : List Char}
    {written : List (String × List Char)}
    (h : ReadsMembers (known fields other) start ((name, value) :: written) s)
    (hfinish : finish s = .ok a) :
    Reads (object fields other start finish) (ofMembers ((name, value) :: written)) a [] := by
  rw [ofMembers_cons]
  unfold object
  refine .bind (reads_skipBlanks rfl) (.bind (reads_peek _) (.bind (reads_skip _ _)
    (.bind (reads_membersOf h []) ?_)))
  rw [hfinish]
  exact .bind rfl (.bind (reads_blanksThen rfl) (.done _ _))

theorem reads_record {fields : List (Member σ)} {start s : σ} {finish : σ → Except Fault α} {a : α}
    {name : String} {value : List Char} {written : List (String × List Char)}
    (h : ReadsMembers (known fields fun _ s => skipValue *> return s) start
      ((name, value) :: written) s)
    (hfinish : finish s = .ok a) :
    Reads (record fields start finish) (ofMembers ((name, value) :: written)) a [] := by
  have hobject := reads_object h hfinish
  rw [ofMembers_cons] at hobject ⊢
  unfold record
  exact .bind (reads_skipBlanks rfl) (.bind (reads_peek _) hobject)

theorem whole_eq_ok {read : Reader α} {a : α} (h : Reads read cs a []) :
    whole read (String.ofList cs) = .ok a := by
  unfold whole
  rw [String.toList_ofList, h]
  rfl

end WorkerMemory.Json.Reader
