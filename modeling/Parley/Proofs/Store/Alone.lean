import Parley.Proofs.Store.Operation
import Parley.System

/-!
# Work with and without a held transaction

`Attempt.YieldsTo g P x`: what `x` comes to is what it comes to on a state seen through `g`, unless it
is refused for a reason `P`. Of a held transaction, other work notices the write lock alone, and a
transaction is refused if it misses the lock or does the same without it (`Transaction.Yields`). So
every operation does what it would do without the held transaction, but for refusals that may be
tried again (`Operation.yields`).
-/

namespace Parley

/-- Work comes to `r`, and to `r₀` from a state seen through `g`: to the same, or `r` is refused. -/
def Undisturbed (g : σ → σ) (P : ε → Prop) (r r₀ : EStateM.Result ε σ α) : Prop :=
  (∃ e s, r = .error e s ∧ P e) ∨ r₀ = seenAs id g r

def Attempt.YieldsTo (g : σ → σ) (P : ε → Prop) (x : Attempt ε σ α) : Prop :=
  ∀ s, Undisturbed g P (x s) (x (g s))

theorem Undisturbed.refused {g : σ → σ} {P : ε → Prop} {r₀ : EStateM.Result ε σ α} (h : P e) :
    Undisturbed g P (.error e s) r₀ := .inl ⟨e, s, rfl, h⟩

namespace Attempt.YieldsTo

variable {g : σ → σ} {P : ε → Prop} {x y : Attempt ε σ α}

theorem pure (a : α) : (Pure.pure a : Attempt ε σ α).YieldsTo g P := fun _ => .inr rfl

theorem throw (e : ε) : (MonadExcept.throw e : Attempt ε σ α).YieldsTo g P := fun _ => .inr rfl

theorem lift (z : Except ε α) : (liftM z : Attempt ε σ α).YieldsTo g P := by
  cases z <;> exact fun _ => .inr rfl

theorem bind {f : α → Attempt ε σ β} (hx : x.YieldsTo g P) (hf : ∀ a, (f a).YieldsTo g P) :
    (x >>= f).YieldsTo g P := by
  intro s
  rw [bind_apply, bind_apply]
  rcases hx s with ⟨e, t, h, he⟩ | h
  · rw [h]
    exact .refused he
  · rw [h]
    cases x s with
    | ok a t => exact hf a t
    | error e t => exact .inr rfl

theorem adapt {Q : δ → Prop} {m : ε → δ} (hx : x.YieldsTo g P) (hm : ∀ e, P e → Q (m e)) :
    Attempt.YieldsTo g Q (x.adaptExcept m) := by
  intro s
  rw [adapt_apply, adapt_apply]
  rcases hx s with ⟨e, t, h, he⟩ | h
  · rw [h]
    exact .refused (hm e he)
  · rw [h]
    cases x s <;> exact .inr rfl

theorem ite {p : Prop} [Decidable p] (hx : x.YieldsTo g P) (hy : y.YieldsTo g P) :
    Attempt.YieldsTo g P (if p then x else y) := by
  split
  · exact hx
  · exact hy

theorem check {p : Prop} [Decidable p] {k : γ → Attempt ε σ α} (hx : x.YieldsTo g P) :
    Attempt.YieldsTo g P (if p then (MonadExcept.throw e : Attempt ε σ γ) >>= k else x) :=
  ite (fun _ => .inr rfl) hx

end Attempt.YieldsTo

-- ---------------------------------------------------------------------------
-- Transactions
-- ---------------------------------------------------------------------------

def Database.alone (db : Database) : Database := { db with held := none }

/-- How a draft would look if nobody else had the write lock. -/
def Draft.free (d : Draft) : Draft := { d with database := d.database.alone }

/-- The transaction is refused if it misses the write lock, or does the same with it. -/
abbrev Transaction.Yields (x : Transaction α) : Prop :=
  Attempt.YieldsTo Draft.free (· = .conflict .locked) x

namespace Attempt.YieldsTo

theorem query (q : Tables → Except StoreError α) : (Transaction.query q).Yields := by
  intro d
  have htables : d.free.tables = d.tables := rfl
  refine .inr ?_
  rw [Transaction.query, Transaction.query, htables]
  cases q d.tables <;> rfl

theorem change (w : Tables → Except StoreError (Write α)) : (Transaction.change w).Yields := by
  intro d
  have hfree : d.free.writable = true := rfl
  have htables : d.free.tables = d.tables := rfl
  unfold Transaction.change
  rw [if_pos hfree, htables]
  split
  · refine .inr ?_
    cases w d.tables <;> rfl
  · exact .refused rfl

theorem adaptLocked {x : Transaction α} {m : StoreError → StoreError} (hx : x.Yields)
    (hm : m (.conflict .locked) = .conflict .locked) : Transaction.Yields (x.adaptExcept m) := by
  refine .adapt hx ?_
  rintro _ rfl
  exact hm

end Attempt.YieldsTo

-- ---------------------------------------------------------------------------
-- Operations
-- ---------------------------------------------------------------------------

abbrev Database.Yields (x : Database → Result α) : Prop :=
  Attempt.YieldsTo alone (·.isRetryable = true) x

namespace Database

@[simp] theorem query_alone (db : Database) (q : Tables → Except StoreError α) :
    db.alone.query q = db.query q := rfl

theorem commit_free (d : Draft) : d.free.commit = d.commit.alone := by
  obtain ⟨db, t, touched⟩ := d
  cases touched <;> rfl

end Database

namespace Attempt.YieldsTo

open Database (Yields)

theorem read (q : Tables → Except StoreError α) : Yields (·.read q) := by
  intro db
  refine .inr ?_
  dsimp only [Database.read]
  rw [Database.query_alone]
  cases db.query q <;> rfl

theorem map {x : Database → Database.Result α} (hx : Yields x) (f : α → β) :
    Yields fun db => (x db).map f := by
  intro db
  dsimp only
  rcases hx db with ⟨e, db', h, he⟩ | h
  · rw [h]
    exact .refused he
  · rw [h]
    cases x db <;> exact .inr rfl

theorem transact {x : Transaction α} (hx : x.Yields) : Yields (·.transact x) := by
  intro db
  have hbegin : Draft.begin db.alone = (Draft.begin db).free := rfl
  dsimp only [Database.transact]
  split
  · next hopen =>
    rw [if_pos (show db.alone.isOpen = true from hopen), hbegin]
    rcases hx (.begin db) with ⟨e, d, h, rfl⟩ | h
    · rw [h]
      exact .refused rfl
    · rw [h]
      refine .inr ?_
      cases x (.begin db) with
      | ok a d => exact congrArg _ (Database.commit_free d)
      | error e d => rfl
  · next hopen =>
    rw [if_neg (show ¬ db.alone.isOpen = true from hopen)]
    exact .inr rfl

end Attempt.YieldsTo

namespace Database

variable (now : Instant)

theorem createAccount_yields (user : NewUser) (token : String) :
    Yields (·.createAccount now user token) :=
  .transact (.bind (.change _) fun _ => .bind (.change _) fun _ => .pure _)

theorem insertConversation_yields (key : Option String) (a b : Int) :
    (insertConversation now key a b).Yields :=
  .bind (.change _) fun _ => .bind (.adaptLocked (.change _) rfl) fun _ =>
    .bind (.adaptLocked (.change _) rfl) fun _ => .pure _

theorem openDirect_yields (pair : Pair) : (openDirect now pair).Yields := by
  intro d
  have htables : d.free.tables = d.tables := rfl
  rw [openDirect_apply, openDirect_apply, htables]
  split
  · exact Attempt.YieldsTo.bind (.query _) (fun _ => .pure _) d
  · exact Attempt.YieldsTo.bind (insertConversation_yields now _ _ _) (fun _ => .pure _) d
  · exact .inr rfl

theorem deliver_yields (m : NewMessage) : (deliver now m).Yields :=
  .bind (.change _) fun _ => .bind (.adaptLocked (.change _) rfl) fun _ =>
    .bind (.change _) fun _ => .bind (.query _) fun _ => .pure _

theorem refetchDirect_yields (pair : Pair) : Yields (·.refetchDirect pair) := by
  intro db
  simp only [refetchDirect, query_alone]
  split
  · exact Attempt.YieldsTo.map (.read _) _ db
  · exact .inr rfl
  · exact .inr rfl

theorem getOrCreateDirect_yields (a b : Int) : Yields (·.getOrCreateDirect now a b) := by
  intro db
  simp only [getOrCreateDirect]
  split
  · exact .inr rfl
  · next pair _ =>
    have hyields := Attempt.YieldsTo.transact (openDirect_yields now pair) db
    dsimp only at hyields
    rcases hyields with ⟨e, db', h, he⟩ | h
    · rw [h]
      cases e <;> cases he
      exact .refused rfl
    · rw [h]
      cases db.transact (openDirect now pair) with
      | ok a db' => exact .inr rfl
      | error e db' =>
        cases e with
        | notUnique _ => exact refetchDirect_yields pair db'
        | _ => exact .inr rfl

theorem existingMessage_yields (key : String) : Yields (·.existingMessage key) := by
  intro db
  simp only [existingMessage, query_alone]
  split <;> exact .inr rfl

theorem sendMessage_yields (m : NewMessage) : Yields (·.sendMessage now m) := by
  intro db
  simp only [sendMessage]
  split
  · exact .inr rfl
  split
  · exact .inr rfl
  have hyields := Attempt.YieldsTo.transact (deliver_yields now m) db
  dsimp only at hyields
  rcases hyields with ⟨e, db', h, he⟩ | h
  · rw [h]
    cases e <;> cases he
    exact .refused rfl
  · rw [h]
    cases db.transact (deliver now m) with
    | ok a db' => exact .inr rfl
    | error e db' =>
      cases e with
      | notUnique _ => exact existingMessage_yields m.key db'
      | _ => exact .inr rfl

theorem markAsRead_yields (c u : Int) : Yields (·.markAsRead now c u) :=
  .transact (.bind (.change _) fun _ => .pure _)

end Database

/-- Beside a held transaction an operation does what it does without one, or is refused for now. -/
theorem Operation.yields (op : Operation) (now : Instant) : Database.Yields (op.run · now) := by
  cases op with
  | createAccount user token =>
    exact .map (Database.createAccount_yields now user token) Report.account
  | createConversation a b =>
    exact .map (.transact (Database.insertConversation_yields now none a b)) Report.conversation
  | getOrCreateDirect a b => exact .map (Database.getOrCreateDirect_yields now a b) Report.direct
  | sendMessage m => exact .map (Database.sendMessage_yields now m) Report.sending
  | markAsRead c u => exact .map (Database.markAsRead_yields now c u) fun _ => Report.done
  | unreadCount c u => exact .map (.read _) Report.count

end Parley
