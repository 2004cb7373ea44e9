import Parley.Proofs.Run.Direct

/-!
# When to try again

With no transaction held there is no competing writer, but an operation may still be answered that it
should be tried again: it is, exactly if it asks for the direct conversation of a pair that is hidden
(`retry_iff_hidden`). A pair is hidden once a third user has been added to its conversation, and no
pair is while statements found no conversation.
-/

namespace Parley

namespace Tables

variable {t t' : Tables}

/-- Every key is the key of a pair, and on the direct conversation of that pair. -/
def KeysDirect (t : Tables) : Prop :=
  ∀ c ∈ t.conversations.rows, ∀ key, c.directKey = some key →
    ∃ pair : Pair, key = pair.key ∧ t.IsDirect pair c.id

theorem KeysDirect.founds {groups : Prop} (h : t.KeysDirect) (ht : t.Integrity)
    (hf : t.Founds groups t') : t'.KeysDirect := by
  intro c' hc' key hkey
  rcases hf.conversation ht hc' with ⟨c, hc, hid, hsame⟩ | ⟨-, hnone⟩ | ⟨pair, hpair, hdirect⟩
  · obtain ⟨pair, hpair, hdirect⟩ := h c hc key (hsame.trans hkey)
    rw [← hid]
    exact ⟨pair, hpair, (hf.joins.isDirect (ht.conversationIds.ascending.2 c hc)).mpr hdirect⟩
  · rw [hnone] at hkey
    cases hkey
  · exact ⟨pair, Option.some.inj (hkey.symm.trans hpair), hdirect⟩

theorem KeysDirect.not_hidden (h : t.KeysDirect) (pair : Pair) : ¬ t.Hidden pair := by
  rintro ⟨⟨c, hc, hkey⟩, habsent⟩
  obtain ⟨pair', hpair, hdirect⟩ := h c hc _ hkey
  obtain rfl := Pair.key_inj hpair
  exact habsent c.id hdirect

end Tables

namespace Http.Call

variable {c : Call}

theorem opens?_iff : c.opens? = some (u, v) ↔ ∃ segment,
    c.request.asks? = some (.post, .conversation segment) ∧ c.authenticate = .ok u ∧
      pathId segment = .ok v := by
  constructor
  · intro h
    unfold opens? at h
    split at h
    · next segment u' hasks hu =>
      split at h
      · next v' hv =>
        cases h
        exact ⟨segment, hasks, hu, hv⟩
      · cases h
    · cases h
  · rintro ⟨segment, hasks, hu, hv⟩
    simp only [opens?, hasks, hu, hv]

def pair? (c : Call) : Option Pair :=
  match c.opens? with
  | some (u, v) => if c.db.committed.hasUser v then (Pair.of u v).toOption else none
  | none => none

theorem pair?_iff : c.pair? = some pair ↔ ∃ u v, c.opens? = some (u, v) ∧
    c.db.committed.hasUser v = true ∧ Pair.of u v = .ok pair := by
  unfold pair?
  constructor
  · intro h
    split at h
    · next u v hopens =>
      split at h
      · next huser => exact ⟨u, v, hopens, huser, toOption_some.mp h⟩
      · cases h
    · cases h
  · rintro ⟨u, v, hopens, huser, hpair⟩
    rw [hopens]
    simp only [huser, if_true]
    exact toOption_some.mpr hpair

theorem openConversation_hidden (hopen : c.db.isOpen = true) (hlock : c.db.isLocked = false)
    (huser : c.db.committed.hasUser v = true) (hpair : Pair.of u v = .ok pair)
    (hhidden : c.db.committed.Hidden pair) : c.openConversation u v c.db =
      .error (.ofStoreError (.conflict (.conversationHidden pair.key))) c.db := by
  have hne : v ≠ u := (Pair.ne_of_ok hpair).symm
  obtain ⟨row, hrow⟩ := Tables.userById_iff.mp huser
  have hread : Handler.read refuseOther (·.userById v) c.db = .ok row c.db :=
    Handler.read_ok.mpr ⟨hopen, hrow, rfl⟩
  rw [openConversation, if_neg hne]
  refine Attempt.bind_error.mpr (.inr ⟨_, _, hread, Attempt.bind_error.mpr (.inl ?_)⟩)
  exact Handler.store_error.mpr
    ⟨_, Database.getOrCreateDirect_hidden hopen hlock hpair hhidden, rfl⟩

/-- With nobody beside it, a request is busy exactly if what it asks for is hidden. -/
theorem busy_iff (ht : c.db.committed.Integrity) (hlock : c.db.isLocked = false) :
    c.answer.1.status = 503 ↔ ∃ pair, c.pair? = some pair ∧ c.db.committed.Hidden pair := by
  constructor
  · intro hbusy
    rcases answer_refused (c := c) (by omega) with hstatus | ⟨route, r, hroute, hrefused, hstatus⟩
    · omega
    rw [hbusy] at hstatus
    cases hrefused with
    | handler h =>
      rw [h.isLocked hstatus.symm] at hlock
      cases hlock
    | stranger _ h | overlong _ _ _ _ _ h => omega
    | hidden hrouted hverb hu hv huser hpair hhidden =>
      subst hrouted
      have hasks := Request.asks?_iff.mpr ⟨hroute, hverb⟩
      have hopens := opens?_iff.mpr ⟨_, hasks, hu, hv⟩
      exact ⟨_, pair?_iff.mpr ⟨_, _, hopens, huser, hpair⟩, hhidden ht⟩
  · rintro ⟨pair, hpair, hhidden⟩
    obtain ⟨u, v, hopens, huser, hpair⟩ := pair?_iff.mp hpair
    obtain ⟨segment, hasks, hu, hv⟩ := opens?_iff.mp hopens
    have hserve : c.serve (.conversation segment) c.db = .error (.ofStoreError
        (.conflict (.conversationHidden pair.key))) c.db := by
      rw [serve_asked hasks rfl hu]
      refine Attempt.bind_error.mpr (.inr ⟨v, c.db, Attempt.lift_ok.mpr ⟨hv, rfl⟩, ?_⟩)
      exact openConversation_hidden (authenticate_ok.mp hu).1 hlock huser hpair hhidden
    exact answer_error hasks hserve

end Http.Call

namespace System

theorem keysDirect_run (clock : Instant) {steps : List Step}
    (hsteps : ∀ st ∈ steps, st.action.Within fun c => c.founds = false) :
    ((start clock).run steps).2.db.committed.KeysDirect := by
  refine (run_keeps (P := fun s => s.Settled ∧ s.db.committed.KeysDirect)
    ⟨settled_start clock, by rintro _ ⟨⟩⟩ ?_).2
  rintro s ⟨hs, hkeys⟩ st hst
  obtain ⟨hsettled, hfounds⟩ := hs.step (hsteps st hst)
  exact ⟨hsettled, hkeys.founds hs.whole hfounds⟩

/-- In every session with an open database and no transaction held, an operation or a request is
answered that it should be tried again exactly if the pair that it asks for is hidden. No pair is if
the statements of the session founded no conversation. -/
theorem retry_iff_hidden (clock : Instant) (steps : List Step) (s : System)
    (hs : s = ((start clock).run steps).2) (hopen : s.db.isOpen = true) (hheld : s.db.held = none) :
    (∀ (time : Option Instant) (op : Operation),
      (∃ e, (s.step ⟨time, .store op⟩).1 = .refused e ∧ e.isRetryable = true) ↔
        ∃ pair, op.pair? = some pair ∧ s.db.committed.Hidden pair) ∧
    (∀ (time : Option Instant) (r : Http.Request) (draws : Draws),
      (∃ reply, (s.step ⟨time, .request r draws⟩).1 = .reply reply ∧ reply.status = 503) ↔
        ∃ pair, Http.Call.pair? ⟨r, time.getD s.clock, draws, s.db⟩ = some pair ∧
          s.db.committed.Hidden pair) ∧
    ((∀ st ∈ steps, st.action.Within fun c => c.founds = false) →
      ∀ pair, ¬ s.db.committed.Hidden pair) := by
  have ht : s.db.committed.Integrity := hs ▸ integrity_run clock steps
  have hlock : s.db.isLocked = false := by rw [Database.isLocked, hheld]; rfl
  refine ⟨fun time op => ?_, fun time r draws => ?_, fun hsteps => ?_⟩
  · simp only [step_store_refused]
    exact op.retryable_iff ht hopen hlock _
  · let c : Http.Call := ⟨r, time.getD s.clock, draws, s.db⟩
    rw [← Http.Call.busy_iff (c := c) ht hlock, step_request]
    constructor
    · rintro ⟨reply, hreply, hstatus⟩
      cases hreply
      exact hstatus
    · intro hstatus
      exact ⟨_, rfl, hstatus⟩
  · rw [hs]
    exact (keysDirect_run clock hsteps).not_hidden

def chat : List Step :=
  [⟨none, .store (.createAccount ⟨"ada", "ada@example.org", "h", "customer"⟩ "t1")⟩,
    ⟨none, .store (.createAccount ⟨"bob", "bob@example.org", "h", "customer"⟩ "t2")⟩,
    ⟨none, .store (.createAccount ⟨"cyd", "cyd@example.org", "h", "customer"⟩ "t3")⟩,
    ⟨none, .store (.getOrCreateDirect 1 2)⟩]

def thirdJoins : List Step :=
  chat ++ [⟨none, .statement false (.change (.addParticipant 1 3 .epoch))⟩]

/-- Nobody stands in the way, and still the first two users are told to try again, however often they
do. -/
theorem third_member_hides :
    let s := ((start .epoch).run thirdJoins).2
    let c : Http.Call := ⟨⟨"POST", "/api/conversations/2", [("authorization", "Bearer t1")], []⟩,
      .epoch, ⟨.replicate 32 0, .replicate 16 0, .replicate 16 0⟩, s.db⟩
    s.db.isOpen = true ∧ s.db.held = none ∧ c.answer.1.status = 503 ∧
      ∀ n, s.run (List.replicate n ⟨none, .store (.getOrCreateDirect 1 2)⟩) =
        (List.replicate n (.refused (.conflict (.conversationHidden "1:2"))), s) := by
  intro s c
  have hstep : s.step ⟨none, .store (.getOrCreateDirect 1 2)⟩ =
      (.refused (.conflict (.conversationHidden "1:2")), s) := by
    have hanswer : withoutState ((Operation.getOrCreateDirect 1 2).run s.db s.clock) =
        .error (.conflict (.conversationHidden "1:2")) := by decide +kernel
    obtain ⟨db, hrun⟩ := withoutState_error.mp hanswer
    rw [Operation.restores hrun] at hrun
    simp only [step, act, Option.getD_none, hrun, settle]
  exact ⟨by decide +kernel, by decide +kernel, by decide +kernel, run_replicate hstep⟩

theorem hidden_is_retried :
    let s := ((start .epoch).run thirdJoins).2
    (∃ e, (s.step ⟨some ⟨10, 0, .inl (by decide)⟩, .store (.getOrCreateDirect 2 1)⟩).1 = .refused e ∧
      e.isRetryable = true) ∧ ∀ pair, ¬ ((start .epoch).run chat).2.db.committed.Hidden pair := by
  have hfirst := retry_iff_hidden .epoch thirdJoins _ rfl (by decide +kernel) (by decide +kernel)
  have hsecond := retry_iff_hidden .epoch chat _ rfl (by decide +kernel) (by decide +kernel)
  have hhidden : ((start .epoch).run thirdJoins).2.db.committed.Hidden ⟨1, 2, by decide, by decide⟩ :=
    ⟨by decide +kernel, (Tables.findDirect_error (e := .notFound .directConversation)).mp
      (by decide +kernel) |>.1⟩
  refine ⟨(hfirst.1 _ _).mpr ⟨_, by decide +kernel, hhidden⟩, hsecond.2.2 ?_⟩
  rintro st hst held c h
  simp only [chat, List.mem_cons, List.not_mem_nil, or_false] at hst
  rcases hst with rfl | rfl | rfl | rfl <;> cases h

end System
end Parley
