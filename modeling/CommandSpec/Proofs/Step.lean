import CommandSpec.Logged

/-!
# Proofs/Step — what a step has done

A step threads a state and may fail.  Where it is known how the first of two steps ends, so is how
both go on (`bind_of_ok`, `bind_of_error`).  The other lemmas take a step apart: two steps in a row
have both succeeded (`bind_eq_ok_iff`), or one of them has failed (`bind_eq_error_iff`), and a
checked result has been one (`check_eq_ok_iff`).
-/

namespace CommandSpec

section Steps

variable {ε σ α β : Type} {step : EStateM ε σ α} {s s' : σ} {b : β}

/-- **Two steps in a row succeed** when both do. -/
theorem bind_eq_ok_iff {next : α → EStateM ε σ β} :
    (step >>= next) s = .ok b s' ↔ ∃ a s₁, step s = .ok a s₁ ∧ next a s₁ = .ok b s' := by
  show EStateM.bind step next s = .ok b s' ↔ _
  rw [EStateM.bind]
  cases step s with
  | ok a s₁ =>
    constructor
    · exact fun h => ⟨a, s₁, rfl, h⟩
    · rintro ⟨_, _, ⟨⟩, h⟩
      exact h
  | error e s₁ =>
    constructor
    · exact fun h => nomatch h
    · rintro ⟨_, _, h, _⟩
      cases h

/-- After a step that succeeds, the next one goes on from where it has stopped. -/
theorem bind_of_ok {next : α → EStateM ε σ β} {a : α} {s₁ : σ} (h : step s = .ok a s₁) :
    (step >>= next) s = next a s₁ := by
  show EStateM.bind step next s = _
  rw [EStateM.bind, h]

/-- After a step that fails, nothing is done. -/
theorem bind_of_error {next : α → EStateM ε σ β} {e : ε} {s₁ : σ} (h : step s = .error e s₁) :
    (step >>= next) s = .error e s₁ := by
  show EStateM.bind step next s = _
  rw [EStateM.bind, h]

/-- **Two steps in a row fail** when the first does, or the second after it. -/
theorem bind_eq_error_iff {next : α → EStateM ε σ β} {e : ε} :
    (step >>= next) s = .error e s' ↔
      step s = .error e s' ∨ ∃ a s₁, step s = .ok a s₁ ∧ next a s₁ = .error e s' := by
  cases hstep : step s with
  | ok a s₁ =>
    rw [bind_of_ok hstep]
    constructor
    · exact fun h => .inr ⟨a, s₁, rfl, h⟩
    · rintro (h | ⟨_, _, h, h'⟩)
      · cases h
      · cases h
        exact h'
  | error e' s₁ =>
    rw [bind_of_error hstep]
    constructor
    · rintro ⟨⟩
      exact .inl rfl
    · rintro (h | ⟨_, _, h, -⟩)
      · cases h
        rfl
      · cases h

theorem map_of_ok {f : α → β} {a : α} {s₁ : σ} (h : step s = .ok a s₁) :
    (f <$> step) s = .ok (f a) s₁ := by
  show EStateM.map f step s = _
  rw [EStateM.map, h]

theorem map_of_error {f : α → β} {e : ε} {s₁ : σ} (h : step s = .error e s₁) :
    (f <$> step) s = .error e s₁ := by
  show EStateM.map f step s = _
  rw [EStateM.map, h]

theorem map_eq_ok_iff {f : α → β} :
    (f <$> step) s = .ok b s' ↔ ∃ a, step s = .ok a s' ∧ f a = b := by
  show EStateM.map f step s = .ok b s' ↔ _
  rw [EStateM.map]
  cases step s with
  | ok a s₁ =>
    constructor
    · rintro ⟨⟩
      exact ⟨a, rfl, rfl⟩
    · rintro ⟨_, ⟨⟩, rfl⟩
      rfl
  | error e s₁ =>
    constructor
    · exact fun h => nomatch h
    · rintro ⟨_, h, _⟩
      cases h

theorem map_eq_error_iff {f : α → β} {e : ε} :
    (f <$> step) s = .error e s' ↔ step s = .error e s' := by
  cases hstep : step s with
  | ok a s₁ =>
    rw [map_of_ok hstep]
    exact iff_of_false (fun h => nomatch h) fun h => nomatch h
  | error e' s₁ =>
    rw [map_of_error hstep, EStateM.Result.error.injEq, EStateM.Result.error.injEq]

theorem pure_eq_ok_iff {a a' : α} :
    (pure a : EStateM ε σ α) s = .ok a' s' ↔ a = a' ∧ s = s' := by
  show EStateM.Result.ok a s = .ok a' s' ↔ _
  rw [EStateM.Result.ok.injEq]

theorem throw_ne_ok {e : ε} {a : α} : (throw e : EStateM ε σ α) s ≠ .ok a s' := nofun

end Steps

theorem except_bind_of_ok {ε α β : Type} {result : Except ε α} {next : α → Except ε β} {a : α}
    (h : result = .ok a) : (result >>= next) = next a := by
  rw [h]
  rfl

/-- Two results in a row are one when both are. -/
theorem except_bind_eq_ok_iff {ε α β : Type} {result : Except ε α} {next : α → Except ε β} {b : β} :
    (result >>= next) = .ok b ↔ ∃ a, result = .ok a ∧ next a = .ok b := by
  cases result with
  | ok a =>
    constructor
    · exact fun h => ⟨a, rfl, h⟩
    · rintro ⟨_, ⟨⟩, h⟩
      exact h
  | error e =>
    constructor
    · exact fun h => nomatch h
    · rintro ⟨_, h, _⟩
      cases h

theorem except_map_eq_ok_iff {ε α β : Type} {result : Except ε α} {f : α → β} {b : β} :
    result.map f = .ok b ↔ ∃ a, result = .ok a ∧ f a = b := by
  cases result with
  | ok a =>
    constructor
    · rintro ⟨⟩
      exact ⟨a, rfl, rfl⟩
    · rintro ⟨_, ⟨⟩, rfl⟩
      rfl
  | error e =>
    constructor
    · exact fun h => nomatch h
    · rintro ⟨_, h, _⟩
      cases h

theorem except_toOption_eq_some_iff {ε α : Type} {result : Except ε α} {a : α} :
    result.toOption = some a ↔ result = .ok a := by
  cases result with
  | ok a' => rw [Except.toOption, Option.some.injEq, Except.ok.injEq]
  | error e => exact iff_of_false (fun h => nomatch h) fun h => nomatch h

/-- **A checked result** is one, and nothing is logged. -/
theorem Logged.check_eq_ok_iff {ε α : Type} {fault : ε → Fault} {result : Except ε α} {a : α}
    {log log' : List Event} :
    check fault result log = .ok a log' ↔ result = .ok a ∧ log = log' := by
  cases result with
  | ok a' =>
    rw [check, pure_eq_ok_iff, Except.ok.injEq]
  | error e =>
    constructor
    · exact fun h => absurd h throw_ne_ok
    · exact fun h => nomatch h.1

end CommandSpec
