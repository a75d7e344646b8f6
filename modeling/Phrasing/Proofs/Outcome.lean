/-
# Outcomes

Computations that may fail, taken apart: when those in a row have a result or a failure, and when
one does whose results or failures are renamed.  `FailsBy` is for failures of which only some
property matters.
-/

namespace Phrasing

/-- Computations in a row have a result if both do. -/
theorem bind_eq_ok {ε α β : Type} {x : Except ε α} {f : α → Except ε β} {b : β} :
    x >>= f = .ok b ↔ ∃ a, x = .ok a ∧ f a = .ok b := by
  constructor
  · intro h
    cases x with
    | error e => cases h
    | ok a => exact ⟨a, rfl, h⟩
  · rintro ⟨a, rfl, h⟩
    exact h

theorem exists_bind_eq_ok {ε α β : Type} {x : Except ε α} {f : α → Except ε β} :
    (∃ b, x >>= f = .ok b) ↔ ∃ a, x = .ok a ∧ ∃ b, f a = .ok b := by
  simp only [bind_eq_ok]
  rw [exists_comm]
  simp only [exists_and_left]

/-- They fail with the failure of the first, or else of the second. -/
theorem bind_eq_error {ε α β : Type} {x : Except ε α} {f : α → Except ε β} {e : ε} :
    x >>= f = .error e ↔ x = .error e ∨ ∃ a, x = .ok a ∧ f a = .error e := by
  cases x with
  | error e' =>
    constructor
    · intro h
      cases h
      exact .inl rfl
    · rintro (h | ⟨a, h, -⟩)
      · cases h
        rfl
      · cases h
  | ok a =>
    constructor
    · intro h
      exact .inr ⟨a, rfl, h⟩
    · rintro (h | ⟨a', h, hf⟩)
      · cases h
      · cases h
        exact hf

/-- A function of the result does not change a failure. -/
theorem map_eq_error {ε α β : Type} {x : Except ε α} {g : α → β} {e : ε} :
    x.map g = .error e ↔ x = .error e := by
  cases x with
  | error e' =>
    constructor
    · rintro ⟨⟩
      rfl
    · rintro ⟨⟩
      rfl
  | ok a =>
    constructor
    · rintro ⟨⟩
    · rintro ⟨⟩

/-- Nor does a function of the failure change a result. -/
theorem mapError_eq_ok {ε ε' α : Type} {x : Except ε α} {g : ε → ε'} {a : α} :
    x.mapError g = .ok a ↔ x = .ok a := by
  cases x with
  | error e => exact iff_of_false nofun nofun
  | ok a' =>
    change Except.ok a' = .ok a ↔ _
    simp

/-- A computation fails, in a way that has the property. -/
def FailsBy {ε α : Type} (P : ε → Prop) (x : Except ε α) : Prop := ∃ e, x = .error e ∧ P e

section FailsBy

variable {ε ε' α β : Type} {P : ε → Prop}

@[simp] theorem failsBy_ok (a : α) : ¬ FailsBy P (.ok a) := by
  rintro ⟨e, ⟨⟩, -⟩

@[simp] theorem failsBy_pure (a : α) : ¬ FailsBy P (pure a : Except ε α) := failsBy_ok a

@[simp] theorem failsBy_error {e : ε} : FailsBy P (.error e : Except ε α) ↔ P e :=
  ⟨fun ⟨_, heq, h⟩ => by cases heq; exact h, fun h => ⟨e, rfl, h⟩⟩

theorem failsBy_bind {x : Except ε α} {f : α → Except ε β} :
    FailsBy P (x >>= f) ↔ FailsBy P x ∨ ∃ a, x = .ok a ∧ FailsBy P (f a) := by
  cases x with
  | error e => simp [bind, Except.bind]
  | ok a => simp [bind, Except.bind]

theorem failsBy_mapError {x : Except ε α} {g : ε → ε'} {P : ε' → Prop} :
    FailsBy P (x.mapError g) ↔ FailsBy (fun e => P (g e)) x := by
  cases x with
  | error e =>
    change FailsBy P (.error (g e)) ↔ _
    simp
  | ok a => exact iff_of_false (failsBy_ok a) (failsBy_ok a)

end FailsBy

/-- Outcomes with related results, or with the same fault. -/
inductive Agree {ε α β : Type} (R : α → β → Prop) : Except ε α → Except ε β → Prop
  | ok {a : α} {b : β} (h : R a b) : Agree R (.ok a) (.ok b)
  | error (f : ε) : Agree R (.error f) (.error f)

namespace Agree

variable {ε α β γ δ : Type} {R : α → β → Prop} {S : γ → δ → Prop}

theorem mono {R' : α → β → Prop} {r : Except ε α} {r' : Except ε β} (h : Agree R r r')
    (hR : ∀ a b, R a b → R' a b) : Agree R' r r' := by
  cases h with
  | ok h => exact .ok (hR _ _ h)
  | error f => exact .error f

theorem bind {r : Except ε α} {r' : Except ε β} {k : α → Except ε γ} {k' : β → Except ε δ}
    (h : Agree R r r') (hk : ∀ a b, R a b → Agree S (k a) (k' b)) :
    Agree S (r >>= k) (r' >>= k') := by
  cases h with
  | ok h => exact hk _ _ h
  | error f => exact .error f

/-- Faults that are renamed alike stay the same. -/
theorem mapError {ε' : Type} {r : Except ε α} {r' : Except ε β} (h : Agree R r r') (g : ε → ε') :
    Agree R (r.mapError g) (r'.mapError g) := by
  cases h with
  | ok h => exact .ok h
  | error f => exact .error (g f)

/-- The same outcome, with a result that is related to itself. -/
theorem refl {R : α → α → Prop} {r : Except ε α} (h : ∀ a, r = .ok a → R a a) : Agree R r r := by
  cases r with
  | ok a => exact .ok (h a rfl)
  | error f => exact .error f

end Agree

end Phrasing
