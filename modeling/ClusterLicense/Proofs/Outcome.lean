/-
  ClusterLicense/Proofs/Outcome.lean
  ==================================
  **When a chain of checks succeeds**: each step did, and no refusal applied.

  Readers and verdicts are chains in `Except`.  With these laws a chain that ends
  well opens into the results of its steps, without unfolding the monad.
-/
import ClusterLicense.Bytes.BigEndian

namespace ClusterLicense

variable {ε α β : Type} {e : ε} {x : Except ε α} {f : α → Except ε β} {a : α} {b : β}

/-- Two steps succeed exactly if the first gives something that the second succeeds with.  Whatever
is a chain of steps that may fail is taken apart by this. -/
theorem bind_eq_ok_iff : (x >>= f) = .ok b ↔ ∃ a, x = .ok a ∧ f a = .ok b := by
  constructor
  · intro h
    cases x with
    | error e => cases h
    | ok a => exact ⟨a, rfl, h⟩
  · rintro ⟨a, rfl, h⟩
    exact h

theorem ok_bind : ((.ok a : Except ε α) >>= f) = f a := rfl

theorem error_bind : ((.error e : Except ε α) >>= f) = .error e := rfl

theorem throw_bind : ((throw e : Except ε α) >>= f) = .error e := rfl

theorem throw_eq_ok_iff : (throw e : Except ε α) = .ok a ↔ False :=
  ⟨fun h => (by cases h), False.elim⟩

theorem pure_eq_ok_iff {a b : α} : (pure a : Except ε α) = .ok b ↔ a = b :=
  Except.ok.injEq a b ▸ Iff.rfl

theorem refuse_if_eq_ok_iff {c : Prop} [Decidable c] :
    (if c then .error e else x) = .ok a ↔ ¬ c ∧ x = .ok a := by
  by_cases h : c <;> simp [h]

theorem refuse_unless_eq_ok_iff {c : Prop} [Decidable c] :
    (if c then x else .error e) = .ok a ↔ c ∧ x = .ok a := by
  by_cases h : c <;> simp [h]

end ClusterLicense
