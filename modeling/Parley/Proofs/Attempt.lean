import Parley.Attempt
import Parley.Proofs.Except

/-!
# Attempts and the states that they leave

The combinators of `Parley.Proofs.Except` for work on a state. `FailsIn P r` says what the errors of
`r` have in common with the states that come with them, and `AlikeIn f g r r'` that two results are
the same as far as `f` tells of the answers and `g` of the states.
-/

namespace Parley

def final : EStateM.Result ε σ α → σ
  | .ok _ s => s
  | .error _ s => s

def withoutState : EStateM.Result ε σ α → Except ε α
  | .ok a _ => .ok a
  | .error e _ => .error e

theorem withoutState_ok {r : EStateM.Result ε σ α} : withoutState r = .ok a ↔ ∃ s, r = .ok a s := by
  cases r <;> simp [withoutState]

theorem withoutState_error {r : EStateM.Result ε σ α} :
    withoutState r = .error e ↔ ∃ s, r = .error e s := by
  cases r <;> simp [withoutState]

namespace Attempt

variable {x : Attempt ε σ α} {f : α → Attempt ε σ β} {s s' : σ}

theorem bind_apply : (x >>= f) s = match x s with
    | .ok a s' => f a s'
    | .error e s' => .error e s' := by
  show EStateM.bind x f s = _
  unfold EStateM.bind
  cases x s <;> rfl

theorem bind_ok : (x >>= f) s = .ok b s' ↔ ∃ a t, x s = .ok a t ∧ f a t = .ok b s' := by
  rw [bind_apply]
  cases x s <;> simp [and_assoc]

theorem bind_error : (x >>= f) s = .error e s' ↔
    x s = .error e s' ∨ ∃ a t, x s = .ok a t ∧ f a t = .error e s' := by
  rw [bind_apply]
  cases x s <;> simp [and_assoc]

theorem pure_apply : (pure a : Attempt ε σ α) s = .ok a s := rfl

theorem throw_apply : (throw e : Attempt ε σ α) s = .error e s := rfl

theorem pure_ok : (pure a : Attempt ε σ α) s = .ok b s' ↔ a = b ∧ s = s' := by
  simp [pure_apply]

theorem throw_ok : (throw e : Attempt ε σ α) s = .ok a s' ↔ False := by
  simp [throw_apply]

theorem adapt_apply {g : ε → δ} : x.adaptExcept g s = match x s with
    | .ok a s' => .ok a s'
    | .error e s' => .error (g e) s' := by
  unfold EStateM.adaptExcept
  cases x s <;> rfl

theorem adapt_ok {g : ε → δ} : x.adaptExcept g s = .ok a s' ↔ x s = .ok a s' := by
  rw [adapt_apply]
  cases x s <;> simp

theorem adapt_error {g : ε → δ} :
    x.adaptExcept g s = .error e s' ↔ ∃ e', x s = .error e' s' ∧ g e' = e := by
  rw [adapt_apply]
  cases x s <;> simp [and_assoc, and_comm]

theorem lift_apply {y : Except ε α} : (liftM y : Attempt ε σ α) s = match y with
    | .ok a => .ok a s
    | .error e => .error e s := by
  cases y <;> rfl

theorem lift_ok {y : Except ε α} :
    (liftM y : Attempt ε σ α) s = .ok a s' ↔ y = .ok a ∧ s = s' := by
  rw [lift_apply]
  cases y <;> simp

theorem lift_error {y : Except ε α} :
    (liftM y : Attempt ε σ α) s = .error e s' ↔ y = .error e ∧ s = s' := by
  rw [lift_apply]
  cases y <;> simp

theorem bind_lift_ok {y : Except ε γ} {f : γ → Attempt ε σ β} :
    (liftM y >>= f : Attempt ε σ β) s = .ok b s' ↔ ∃ a, y = .ok a ∧ f a s = .ok b s' := by
  simp only [bind_ok, lift_ok, and_assoc, exists_and_left, exists_eq_left']

theorem check_ok {p : Prop} [Decidable p] {k : γ → Attempt ε σ α} :
    (if p then (throw e : Attempt ε σ γ) >>= k else x) s = .ok a s' ↔ ¬ p ∧ x s = .ok a s' := by
  split <;> simp_all [bind_ok, throw_ok]

end Attempt

-- ---------------------------------------------------------------------------
-- Work that leaves the state alone
-- ---------------------------------------------------------------------------

def Attempt.Keeps (x : Attempt ε σ α) : Prop := ∀ s, final (x s) = s

namespace Attempt.Keeps

variable {x y : Attempt ε σ α}

theorem ok (hx : x.Keeps) (h : x s = .ok a s') : s' = s := by
  have hkept := hx s
  rwa [h] at hkept

theorem error (hx : x.Keeps) (h : x s = .error e s') : s' = s := by
  have hkept := hx s
  rwa [h] at hkept

theorem pure (a : α) : (Pure.pure a : Attempt ε σ α).Keeps := fun _ => rfl

theorem throw (e : ε) : (MonadExcept.throw e : Attempt ε σ α).Keeps := fun _ => rfl

theorem lift (z : Except ε α) : (liftM z : Attempt ε σ α).Keeps := by
  cases z <;> exact fun _ => rfl

theorem bind {f : α → Attempt ε σ β} (hx : x.Keeps) (hf : ∀ a, (f a).Keeps) : (x >>= f).Keeps := by
  intro s
  rw [bind_apply]
  cases h : x s with
  | ok a s' => exact (hf a s').trans (hx.ok h)
  | error e s' => exact hx.error h

theorem ite {p : Prop} [Decidable p] (hx : x.Keeps) (hy : y.Keeps) :
    Attempt.Keeps (if p then x else y) := by
  split
  · exact hx
  · exact hy

theorem check {p : Prop} [Decidable p] {k : γ → Attempt ε σ α} (hx : x.Keeps) :
    Attempt.Keeps (if p then (MonadExcept.throw e : Attempt ε σ γ) >>= k else x) :=
  ite (fun _ => rfl) hx

end Attempt.Keeps

-- ---------------------------------------------------------------------------
-- Errors and the states that come with them
-- ---------------------------------------------------------------------------

/-- Where it fails, `P` holds of the error and the state. -/
def FailsIn (P : ε → σ → Prop) (r : EStateM.Result ε σ α) : Prop := ∀ e s, r = .error e s → P e s

abbrev FailsLeaving (s : σ) (P : ε → Prop) (r : EStateM.Result ε σ α) : Prop :=
  FailsIn (fun e s' => P e ∧ s' = s) r

namespace FailsIn

variable {P Q : ε → σ → Prop} {x : Attempt ε σ α} {s : σ}

theorem ok (a : α) (s : σ) : FailsIn P (.ok a s) := by
  rintro _ _ ⟨⟩

theorem error (h : P e s) : FailsIn P (.error e s : EStateM.Result ε σ α) := by
  rintro _ _ ⟨⟩
  exact h

theorem pure (a : α) (s : σ) : FailsIn P ((Pure.pure a : Attempt ε σ α) s) := ok a s

theorem bind {f : α → Attempt ε σ β} (hx : FailsIn P (x s))
    (hf : ∀ a t, x s = .ok a t → FailsIn P (f a t)) : FailsIn P ((x >>= f) s) := by
  intro e s' he
  rcases Attempt.bind_error.mp he with he | ⟨a, t, ha, he⟩
  · exact hx e s' he
  · exact hf a t ha e s' he

theorem bind_keeps {f : α → Attempt ε σ β} (hkeeps : x.Keeps) (hx : FailsIn P (x s))
    (hf : ∀ a, x s = .ok a s → FailsIn P (f a s)) : FailsIn P ((x >>= f) s) := by
  refine bind hx fun a t ha => ?_
  obtain rfl := hkeeps.ok ha
  exact hf a ha

theorem adapt {R : δ → σ → Prop} {g : ε → δ} (hx : FailsIn P (x s))
    (hg : ∀ e t, P e t → R (g e) t) : FailsIn R (x.adaptExcept g s) := by
  intro e s' he
  obtain ⟨e', he', rfl⟩ := Attempt.adapt_error.mp he
  exact hg e' s' (hx e' s' he')

theorem ite {p : Prop} [Decidable p] {y : Attempt ε σ α} (hx : p → FailsIn P (x s))
    (hy : ¬ p → FailsIn P (y s)) : FailsIn P ((if p then x else y) s) := by
  split
  · next h => exact hx h
  · next h => exact hy h

end FailsIn

namespace FailsLeaving

variable {P Q : ε → Prop} {x : Attempt ε σ α} {s : σ}

theorem mono {r : EStateM.Result ε σ α} (h : FailsLeaving s P r) (hm : ∀ e, P e → Q e) :
    FailsLeaving s Q r :=
  fun e s' he => (h e s' he).imp_left (hm e)

theorem throw (h : P e) : FailsLeaving s P ((MonadExcept.throw e : Attempt ε σ α) s) :=
  .error ⟨h, rfl⟩

theorem bind_lift {y : Except ε α} {f : α → Attempt ε σ β} (hy : FailsOnly P y)
    (hf : ∀ a, y = .ok a → FailsLeaving s P (f a s)) :
    FailsLeaving s P ((liftM y >>= f : Attempt ε σ β) s) := by
  intro e s' h
  rcases Attempt.bind_error.mp h with h | ⟨a, t, ha, h⟩
  · obtain ⟨hfailed, rfl⟩ := Attempt.lift_error.mp h
    exact ⟨hy e hfailed, rfl⟩
  · obtain ⟨hgiven, rfl⟩ := Attempt.lift_ok.mp ha
    exact hf a hgiven e s' h

/-- A check that refuses, followed by what is done if it does not. -/
theorem check {p : Prop} [Decidable p] {f : γ → Attempt ε σ α} (h : P e)
    (hx : ¬ p → FailsLeaving s P (x s)) :
    FailsLeaving s P ((if p then (MonadExcept.throw e : Attempt ε σ γ) >>= f else x) s) :=
  .ite (fun _ => throw h) hx

end FailsLeaving

-- ---------------------------------------------------------------------------
-- Two results
-- ---------------------------------------------------------------------------

def seenAs (f : α → β) (g : σ → τ) : EStateM.Result ε σ α → EStateM.Result ε τ β
  | .ok a s => .ok (f a) (g s)
  | .error e s => .error e (g s)

/-- Both fail with the same error, or both give what is the same to `f`, and the states that they
leave are the same to `g`. -/
def AlikeIn (f : α → β) (g : σ → τ) (r r' : EStateM.Result ε σ α) : Prop :=
  seenAs f g r' = seenAs f g r

namespace AlikeIn

variable {f : α → β} {g : σ → τ} {r r' : EStateM.Result ε σ α} {x x' : Attempt ε σ α} {s s' : σ}

theorem ok (h : f a' = f a) (hs : g s' = g s) :
    AlikeIn f g (.ok a s : EStateM.Result ε σ α) (.ok a' s') := by
  simp [AlikeIn, seenAs, h, hs]

theorem error (e : ε) (hs : g s' = g s) :
    AlikeIn f g (.error e s : EStateM.Result ε σ α) (.error e s') := by
  simp [AlikeIn, seenAs, hs]

theorem cases (h : AlikeIn f g r r') :
    (∃ e s s', r = .error e s ∧ r' = .error e s' ∧ g s' = g s) ∨
      ∃ a a' s s', r = .ok a s ∧ r' = .ok a' s' ∧ f a' = f a ∧ g s' = g s := by
  unfold AlikeIn at h
  cases r with
  | ok a s =>
    cases r' with
    | ok a' s' =>
      simp only [seenAs, EStateM.Result.ok.injEq] at h
      exact .inr ⟨a, a', s, s', rfl, rfl, h⟩
    | error e' s' => cases h
  | error e s =>
    cases r' with
    | ok a' s' => cases h
    | error e' s' =>
      simp only [seenAs, EStateM.Result.error.injEq] at h
      obtain ⟨rfl, h⟩ := h
      exact .inl ⟨e', s, s', rfl, rfl, h⟩

theorem bind {k : γ → δ} {y y' : α → Attempt ε σ γ} (h : AlikeIn f g (x s) (x' s'))
    (hk : ∀ a a' t t', x s = .ok a t → x' s' = .ok a' t' → f a' = f a → g t' = g t →
      AlikeIn k g (y a t) (y' a' t')) :
    AlikeIn k g ((x >>= y) s) ((x' >>= y') s') := by
  rw [Attempt.bind_apply, Attempt.bind_apply]
  rcases h.cases with ⟨e, t, t', hx, hx', ht⟩ | ⟨a, a', t, t', hx, hx', ha, ht⟩
  · rw [hx, hx']
    exact error e ht
  · rw [hx, hx']
    exact hk a a' t t' hx hx' ha ht

theorem bind_lift {k : γ → δ} {z : Except ε α} {y y' : α → Attempt ε σ γ} (hs : g s' = g s)
    (hk : ∀ a, z = .ok a → AlikeIn k g (y a s) (y' a s')) :
    AlikeIn k g ((liftM z >>= y) s) ((liftM z >>= y') s') := by
  rw [Attempt.bind_apply, Attempt.bind_apply, Attempt.lift_apply, Attempt.lift_apply]
  cases z with
  | ok a => exact hk a rfl
  | error e => exact error e hs

theorem adapt (h : AlikeIn f g (x s) (x' s')) (m : ε → δ) :
    AlikeIn f g (x.adaptExcept m s) (x'.adaptExcept m s') := by
  rw [Attempt.adapt_apply, Attempt.adapt_apply]
  rcases h.cases with ⟨e, t, t', hx, hx', ht⟩ | ⟨a, a', t, t', hx, hx', ha, ht⟩
  · rw [hx, hx']
    exact error (m e) ht
  · rw [hx, hx']
    exact ok ha ht

end AlikeIn

/-- Work does not depend on what `g` leaves out of the state. -/
def Attempt.SeesOnly (g : σ → τ) (x : Attempt ε σ α) : Prop :=
  ∀ s s', g s' = g s → AlikeIn id g (x s) (x s')

namespace Attempt.SeesOnly

variable {g : σ → τ} {x y : Attempt ε σ α}

theorem pure (a : α) : (Pure.pure a : Attempt ε σ α).SeesOnly g := fun _ _ h => .ok rfl h

theorem throw (e : ε) : (MonadExcept.throw e : Attempt ε σ α).SeesOnly g := fun _ _ h => .error e h

theorem lift (z : Except ε α) : (liftM z : Attempt ε σ α).SeesOnly g := by
  cases z with
  | ok a => exact pure a
  | error e => exact throw e

theorem bind {f : α → Attempt ε σ β} (hx : x.SeesOnly g) (hf : ∀ a, (f a).SeesOnly g) :
    (x >>= f).SeesOnly g := by
  intro s s' h
  refine (hx s s' h).bind ?_
  rintro a _ t t' - - rfl ht
  exact hf _ t t' ht

theorem adapt (hx : x.SeesOnly g) (m : ε → δ) : Attempt.SeesOnly g (x.adaptExcept m) :=
  fun s s' h => (hx s s' h).adapt m

theorem ite {p : Prop} [Decidable p] (hx : x.SeesOnly g) (hy : y.SeesOnly g) :
    Attempt.SeesOnly g (if p then x else y) := by
  split
  · exact hx
  · exact hy

theorem check {p : Prop} [Decidable p] {k : γ → Attempt ε σ α} (hx : x.SeesOnly g) :
    Attempt.SeesOnly g (if p then (MonadExcept.throw e : Attempt ε σ γ) >>= k else x) :=
  ite (fun _ _ h => .error e h) hx

end Attempt.SeesOnly
end Parley
