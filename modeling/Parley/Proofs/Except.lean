import Parley.Store.Change

/-!
# Answers and refusals

Each lemma reads the success of one combinator as the success of its parts. Proofs about statements,
operations and requests take them apart with these. `FailsOnly P x` says what the refusals of `x`
have in common, and `Alike f x x'` that two computations come to the same as far as `f` tells; both
go through the same combinators.
-/

namespace Parley

theorem bind_ok {x : Except ε α} {f : α → Except ε β} :
    x >>= f = .ok b ↔ ∃ a, x = .ok a ∧ f a = .ok b := by
  cases x <;> simp [bind, Except.bind]

@[simp] theorem pure_ok : (pure a : Except ε α) = .ok b ↔ a = b := by
  simp [pure, Except.pure]

@[simp] theorem throw_ok : (throw e : Except ε α) = .ok a ↔ False := by
  show Except.error e = .ok a ↔ False
  simp

@[simp] theorem throw_bind {f : α → Except ε β} : (throw e : Except ε α) >>= f = .error e := rfl

theorem ok_bind {f : α → Except ε β} : (Except.ok a : Except ε α) >>= f = f a := rfl

theorem map_ok {x : Except ε α} {f : α → β} : x.map f = .ok b ↔ ∃ a, x = .ok a ∧ f a = b := by
  cases x <;> simp [Except.map]

@[simp] theorem ok_mapError {f : ε → δ} : (Except.ok a : Except ε α).mapError f = .ok a := rfl

@[simp] theorem error_mapError {f : ε → δ} :
    (Except.error e : Except ε α).mapError f = .error (f e) := rfl

@[simp] theorem mapError_ok {x : Except ε α} {f : ε → δ} : x.mapError f = .ok a ↔ x = .ok a := by
  cases x <;> simp

theorem mapError_error {x : Except ε α} {f : ε → δ} :
    x.mapError f = .error e ↔ ∃ e', x = .error e' ∧ f e' = e := by
  cases x <;> simp

theorem toOption_some {x : Except ε α} : x.toOption = some a ↔ x = .ok a := by
  cases x <;> simp [Except.toOption]

theorem bind_error {x : Except ε α} {f : α → Except ε β} :
    x >>= f = .error e ↔ x = .error e ∨ ∃ a, x = .ok a ∧ f a = .error e := by
  cases x <;> simp [bind, Except.bind]

theorem require_ok : Tables.require ok e = .ok u ↔ ok = true := by
  cases ok <;> simp [Tables.require]

theorem found_ok : found what o = .ok a ↔ o = some a := by
  cases o <;> simp [found]

theorem found_error : found what o = .error e ↔ o = none ∧ e = .notFound what := by
  cases o <;> simp [found, eq_comm]

-- ---------------------------------------------------------------------------
-- Errors of a kind
-- ---------------------------------------------------------------------------

/-- Where it fails, `P` holds of the error. -/
def FailsOnly (P : ε → Prop) (x : Except ε α) : Prop := ∀ e, x = .error e → P e

namespace FailsOnly

variable {P Q : ε → Prop} {x : Except ε α}

theorem ok (a : α) : FailsOnly P (.ok a) := by
  intro e h
  cases h

theorem pure (a : α) : FailsOnly P (Pure.pure a) := ok a

theorem error (h : P e) : FailsOnly P (.error e : Except ε α) := by
  intro e' h'
  cases h'
  exact h

theorem throw (h : P e) : FailsOnly P (throw e : Except ε α) := error h

theorem mono (hx : FailsOnly P x) (h : ∀ e, P e → Q e) : FailsOnly Q x :=
  fun e he => h e (hx e he)

theorem bind {f : α → Except ε β} (hx : FailsOnly P x)
    (hf : ∀ a, x = .ok a → FailsOnly P (f a)) : FailsOnly P (x >>= f) := by
  intro e he
  rcases bind_error.mp he with he | ⟨a, ha, he⟩
  · exact hx e he
  · exact hf a ha e he

theorem map (hx : FailsOnly P x) (f : α → β) : FailsOnly P (x.map f) := by
  cases x with
  | ok a => exact ok (f a)
  | error e => exact error (hx e rfl)

theorem of_map {f : α → β} (h : FailsOnly P (x.map f)) : FailsOnly P x := by
  intro e he
  apply h
  rw [he]
  rfl

theorem mapped {g : δ → ε} {y : Except δ α} (h : ∀ e, P (g e)) : FailsOnly P (y.mapError g) := by
  intro e he
  obtain ⟨e', -, rfl⟩ := mapError_error.mp he
  exact h e'

theorem ite {p : Prop} [Decidable p] {y : Except ε α} (hx : p → FailsOnly P x)
    (hy : ¬ p → FailsOnly P y) : FailsOnly P (if p then x else y) := by
  split
  · next h => exact hx h
  · next h => exact hy h

theorem check {p : Prop} [Decidable p] {f : β → Except ε α} (h : P e)
    (hx : ¬ p → FailsOnly P x) :
    FailsOnly P (if p then (MonadExcept.throw e : Except ε β) >>= f else x) :=
  ite (fun _ => error h) hx

theorem found {P : StoreError → Prop} {o : Option α} (h : o = none → P (.notFound what)) :
    FailsOnly P (Parley.found what o) := by
  intro e he
  obtain ⟨hnone, rfl⟩ := found_error.mp he
  exact h hnone

theorem require {P : StoreError → Prop} {b : Bool} (h : b = false → P e) :
    FailsOnly P (Tables.require b e) := by
  cases b with
  | true => exact ok ()
  | false => exact error (h rfl)

end FailsOnly

-- ---------------------------------------------------------------------------
-- Two computations
-- ---------------------------------------------------------------------------

/-- Both fail with the same error, or both give what is the same to `f`. -/
def Alike (f : α → β) (x x' : Except ε α) : Prop := x'.map f = x.map f

namespace Alike

variable {f : α → β} {x x' x'' : Except ε α}

theorem refl (x : Except ε α) : Alike f x x := rfl

theorem ok (h : f a' = f a) : Alike f (.ok a : Except ε α) (.ok a') := congrArg Except.ok h

theorem symm (h : Alike f x x') : Alike f x' x := Eq.symm h

theorem trans (h : Alike f x x') (h' : Alike f x' x'') : Alike f x x'' := Eq.trans h' h

theorem cases (h : Alike f x x') : (∃ e, x = .error e ∧ x' = .error e) ∨
    ∃ a a', x = .ok a ∧ x' = .ok a' ∧ f a' = f a := by
  unfold Alike at h
  cases x <;> cases x' <;> simp_all [Except.map]

theorem bind_same {g : γ → δ} {y : Except ε β} {k k' : β → Except ε γ}
    (hk : ∀ b, Alike g (k b) (k' b)) : Alike g (y >>= k) (y >>= k') := by
  cases y with
  | ok b => exact hk b
  | error e => exact refl _

theorem ite {p : Prop} [Decidable p] {y y' : Except ε α} (hx : Alike f x x') (hy : Alike f y y') :
    Alike f (if p then x else y) (if p then x' else y') := by
  split
  · exact hx
  · exact hy

end Alike
end Parley
