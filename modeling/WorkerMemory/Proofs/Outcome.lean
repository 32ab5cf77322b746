/-! # Results that may be errors

A reading is known once it is said which texts it accepts and which it refuses, if every text is one
or the other.
-/

namespace WorkerMemory

variable {ε ε' α β : Type}

theorem ok_bind (a : α) (f : α → Except ε β) : (Except.ok a >>= f) = f a := rfl

theorem exists_of_bind_eq_ok {x : Except ε α} {f : α → Except ε β} {b : β}
    (h : (x >>= f) = .ok b) : ∃ a, x = .ok a ∧ f a = .ok b := by
  cases x with
  | error e => contradiction
  | ok a => exact ⟨a, rfl, h⟩

theorem eq_ok_of_toOption {x : Except ε α} {a : α} (h : x.toOption = some a) : x = .ok a := by
  cases x with
  | error e => contradiction
  | ok a' => exact congrArg Except.ok (Option.some.inj h)

theorem mapError_eq_ok_iff {f : ε → ε'} {x : Except ε α} {a : α} :
    x.mapError f = .ok a ↔ x = .ok a := by
  cases x with
  | error e => exact iff_of_false nofun nofun
  | ok a' =>
    constructor
    · rintro ⟨⟩
      rfl
    · rintro ⟨⟩
      rfl

theorem outcome_iff {result : Except ε α} {Accepted : α → Prop} {Refused : ε → Prop}
    (accepts : ∀ a, Accepted a → result = .ok a) (refuses : ∀ e, Refused e → result = .error e)
    (total : (∃ a, Accepted a) ∨ ∃ e, Refused e) :
    (∀ a, result = .ok a ↔ Accepted a) ∧ ∀ e, result = .error e ↔ Refused e := by
  obtain ⟨a, ha⟩ | ⟨e, he⟩ := total
  · have hresult := accepts a ha
    refine ⟨fun a' => ⟨fun h => ?_, accepts a'⟩, fun e => ⟨fun h => ?_, refuses e⟩⟩
    · rw [hresult] at h
      cases h
      exact ha
    · rw [hresult] at h
      contradiction
  · have hresult := refuses e he
    refine ⟨fun a => ⟨fun h => ?_, accepts a⟩, fun e' => ⟨fun h => ?_, refuses e'⟩⟩
    · rw [hresult] at h
      contradiction
    · rw [hresult] at h
      cases h
      exact he

end WorkerMemory
