import Parley.Proofs.Run.Grants
import Parley.Proofs.Run.Traffic

/-!
# The life of a session

Who may use a token follows from the exchanges of a session of clients: whoever was given it last and
has not logged out since (`session_lasts_until_logout`). One request changes this for the token that
it grants and for the tokens of the user who logs out by it (`userIdByToken_answer`).
-/

namespace Parley
namespace Http

-- ---------------------------------------------------------------------------
-- Tokens in a list of exchanges
-- ---------------------------------------------------------------------------

def DistinctGrants (all : List Exchange) : Prop :=
  ((all.filterMap Exchange.grants?).map Prod.fst).Nodup

/-- In what was seen the token was given to the user, who has not logged out since. All exchanges tell
who it is that logs out. -/
def HoldsIn (all seen : List Exchange) (token : String) (u : Int) : Prop :=
  ∃ before x after, seen = before ++ x :: after ∧ x.grants? = some (token, u) ∧
    ∀ y ∈ after, ¬ y.LogsOut all u

def Knows (all seen : List Exchange) (t : Tables) : Prop :=
  ∀ token u, t.userIdByToken token = .ok u ↔ HoldsIn all seen token u

variable {all seen : List Exchange} {token : String} {u v : Int} {x y : Exchange}

theorem DistinctGrants.user_eq (h : DistinctGrants all) (hx : x ∈ all) (hy : y ∈ all)
    (hu : x.grants? = some (token, u)) (hv : y.grants? = some (token, v)) : u = v := by
  have hmem {x : Exchange} {u : Int} (hx : x ∈ all) (hu : x.grants? = some (token, u)) :
      (token, u) ∈ all.filterMap Exchange.grants? := List.mem_filterMap.mpr ⟨x, hx, hu⟩
  exact congrArg Prod.snd (List.inj_on_of_nodup_map h (hmem hx hu) (hmem hy hv) rfl)

theorem not_holdsIn_nil : ¬ HoldsIn all [] token u := by
  rintro ⟨before, x, after, heq, -⟩
  simp at heq

theorem HoldsIn.granted (h : HoldsIn all seen token u) :
    ∃ x ∈ seen, x.grants? = some (token, u) := by
  obtain ⟨before, x, after, rfl, hgrant, -⟩ := h
  exact ⟨x, by simp, hgrant⟩

theorem holdsIn_concat : HoldsIn all (seen ++ [y]) token u ↔
    y.grants? = some (token, u) ∨ HoldsIn all seen token u ∧ ¬ y.LogsOut all u := by
  constructor
  · rintro ⟨before, x, after, heq, hgrant, hstays⟩
    rcases List.eq_nil_or_concat after with rfl | ⟨after, z, rfl⟩
    · obtain ⟨-, hlast⟩ := List.append_inj' heq rfl
      obtain rfl := List.singleton_inj.mp hlast
      exact .inl hgrant
    · rw [List.concat_eq_append, ← List.cons_append, ← List.append_assoc] at heq
      obtain ⟨rfl, hlast⟩ := List.append_inj' heq rfl
      obtain rfl := List.singleton_inj.mp hlast
      refine .inr ⟨⟨before, x, after, rfl, hgrant, fun z hz => hstays z ?_⟩, hstays y ?_⟩ <;> simp [*]
  · rintro (hgrant | ⟨⟨before, x, after, rfl, hgrant, hstays⟩, hy⟩)
    · exact ⟨seen, y, [], rfl, hgrant, by simp⟩
    · refine ⟨before, x, after ++ [y], by simp, hgrant, fun z hz => ?_⟩
      rcases List.mem_append.mp hz with hz | hz
      · exact hstays z hz
      · exact List.mem_singleton.mp hz ▸ hy

-- ---------------------------------------------------------------------------
-- One request
-- ---------------------------------------------------------------------------

namespace Call

variable {c : Call}

theorem authenticate_bears (hopen : c.db.isOpen = true) (hbears : c.request.Bears token) :
    c.authenticate = .ok u ↔ c.db.committed.userIdByToken token = .ok u := by
  simp [authenticate_ok, hopen, Request.bears_iff.mp hbears]

/-- Whose token it is after a request: it was just given to the user, or it was the user's before, who
has not just logged out. -/
theorem userIdByToken_answer (ht : c.db.committed.Integrity) :
    c.answer.2.committed.userIdByToken token = .ok u ↔ c.exchange.grants? = some (token, u) ∨
      c.db.committed.userIdByToken token = .ok u ∧
        ¬ (c.exchange.IsLogout ∧ c.authenticate = .ok u) := by
  simp only [Tables.userIdByToken, found_ok]
  cases answer_turns ht with
  | @granted given v hgrant hstays hnew h =>
    rw [h, Tables.ReflectsAccounts.find?_add hnew, hgrant]
    by_cases htoken : given = token
    · have hnone : c.db.committed.sessions.rows.find? (·.token == token) = none :=
        List.find?_eq_none.mpr fun session hs => by simpa [htoken] using hnew session hs
      simp [htoken, hnone]
    · simp [htoken, hstays]
  | @ended v hgrant hends hv h =>
    rw [h, Tables.ReflectsAccounts.find?_remove ht, Option.filter_eq_some_iff]
    simp [hgrant, hends, hv, @eq_comm Int v u]
  | kept hgrant hstays h => simp [h, hgrant, hstays]

theorem logsOut_iff (ht : c.db.committed.Integrity) (hfresh : DistinctGrants all)
    (hseen : seen ⊆ all) (h : Knows all seen c.db.committed) :
    c.exchange.LogsOut all u ↔ c.exchange.IsLogout ∧ c.authenticate = .ok u := by
  have hgranted {u : Int} (hu : c.authenticate = .ok u) : ∃ token, c.request.Bears token ∧
      ∃ x ∈ all, x.grants? = some (token, u) := by
    obtain ⟨-, token, htoken, hu⟩ := authenticate_ok.mp hu
    obtain ⟨x, hx, hgrant⟩ := ((h token u).mp hu).granted
    exact ⟨token, Request.bears_iff.mpr htoken, x, hseen hx, hgrant⟩
  constructor
  · rintro ⟨hends, token, hbears, x, hx, hgrant⟩
    refine ⟨hends, ?_⟩
    cases answer_turns ht with
    | granted _ hstays | kept _ hstays => exact absurd hends hstays
    | ended _ _ hv =>
      obtain ⟨token', hbears', y, hy, hgrant'⟩ := hgranted hv
      obtain rfl := hbears.unique hbears'
      rwa [hfresh.user_eq hx hy hgrant hgrant']
  · rintro ⟨hends, hu⟩
    exact ⟨hends, hgranted hu⟩

theorem answer_knows (ht : c.db.committed.Integrity) (hfresh : DistinctGrants all)
    (hseen : seen ⊆ all) (h : Knows all seen c.db.committed) :
    Knows all (seen ++ [c.exchange]) c.answer.2.committed := by
  intro token u
  rw [userIdByToken_answer ht, holdsIn_concat, logsOut_iff ht hfresh hseen h, h]

end Call
end Http

-- ---------------------------------------------------------------------------
-- Runs
-- ---------------------------------------------------------------------------

namespace System

open Http (Call Exchange DistinctGrants Knows)

theorem knows_run (clock : Instant) {steps : List Step}
    (hsteps : ∀ st ∈ steps, st.action.isClient = true)
    (hfresh : DistinctGrants ((start clock).traffic steps)) :
    ((start clock).run steps).2.Serving
      (Knows ((start clock).traffic steps) ((start clock).traffic steps)) := by
  refine traffic_keeps_start clock hsteps (fun token u => ?_) fun c seen hprefix ht h => ?_
  · exact iff_of_false (by rintro ⟨⟩) Http.not_holdsIn_nil
  · have hseen : seen ⊆ (start clock).traffic steps :=
      ((List.prefix_append _ _).trans hprefix).subset
    exact Call.answer_knows ht hfresh hseen h

/-- In every session of clients, to whom no token is given twice, a request with a token is taken to be
of the user to whom the token was given, by an account or a login, as long as this user has not logged
out since with any of their tokens. No other request makes or undoes that. -/
theorem session_lasts_until_logout (clock : Instant) (steps : List Step)
    (hsteps : ∀ st ∈ steps, st.action.isClient = true)
    (s : System) (hs : s = ((start clock).run steps).2)
    (xs : List Exchange) (hxs : xs = (start clock).traffic steps) (hfresh : DistinctGrants xs)
    (token : String) (u : Int) :
    (∀ c : Call, c.db = s.db → c.request.Bears token → (c.authenticate = .ok u ↔
      ∃ before x after, xs = before ++ x :: after ∧ x.grants? = some (token, u) ∧
        ∀ y ∈ after, ¬ y.LogsOut xs u)) ∧
    ∀ c before after : Call, c.db = s.db → c.exchange.grants? ≠ some (token, u) →
      ¬ c.exchange.LogsOut xs u → before.db = s.db → before.request.Bears token →
      after.db = c.answer.2 → after.request.Bears token →
      (after.authenticate = .ok u ↔ before.authenticate = .ok u) := by
  obtain ⟨hopen, -, ht, hknows⟩ : s.Serving _ := hs ▸ knows_run clock hsteps (hxs ▸ hfresh)
  rw [← hxs] at hknows
  have hbears {c : Call} (hdb : c.db = s.db) (hc : c.request.Bears token) :
      c.authenticate = .ok u ↔ s.db.committed.userIdByToken token = .ok u := by
    rw [← hdb] at hopen ⊢
    exact Call.authenticate_bears hopen hc
  refine ⟨fun c hdb hc => (hbears hdb hc).trans (hknows token u), ?_⟩
  intro c before after hdb hgrant hstays hbefore hbears₀ hafter hbears₁
  have hopen' : after.db.isOpen = true := by
    rw [hafter, Call.answer_isOpen, hdb]
    exact hopen
  rw [hbears hbefore hbears₀, Call.authenticate_bears hopen' hbears₁, hafter]
  rw [← hdb] at ht hknows ⊢
  rw [Call.logsOut_iff ht hfresh (List.Subset.refl _) hknows] at hstays
  simp [Call.userIdByToken_answer ht, hgrant, hstays]

/-- Two users register and somebody unknown fails to log in; the first user's session outlasts a logout
of the second. -/
theorem session_outlasts_other_logout :
    let steps : List Step :=
      [⟨none, .request (requestFor 0 "POST" "/api/account/create"
          "[\"ada\", \"ada@example.org\", \"pw\"]") (drawsFor 0)⟩,
        ⟨none, .request (requestFor 1 "POST" "/api/account/create"
          "[\"bob\", \"bob@example.org\", \"pw\"]") (drawsFor 1)⟩,
        ⟨none, .request (requestFor 2 "POST" "/api/account/login" "[\"cy\", \"pw\"]") (drawsFor 2)⟩]
    let s := ((start .epoch).run steps).2
    let leave : Call := ⟨requestFor 1 "POST" "/api/account/logout" "", .epoch, drawsFor 3, s.db⟩
    let ask (db : Database) : Call :=
      ⟨requestFor 0 "GET" "/api/conversations" "", .epoch, drawsFor 4, db⟩
    (ask s.db).authenticate = .ok 1 ∧ leave.answer.1.status = 204 ∧
      (ask leave.answer.2).authenticate = .ok 1 := by
  intro steps s leave ask
  have hbears : (requestFor 0 "GET" "/api/conversations" "").Bears (drawsFor 0).tokenText := by
    decide +kernel
  obtain ⟨hnow, hlater⟩ := session_lasts_until_logout .epoch steps (by decide +kernel) s rfl _ rfl
    (by unfold DistinctGrants; decide +kernel) (drawsFor 0).tokenText 1
  have hada : (ask s.db).authenticate = .ok 1 := by
    refine (hnow _ rfl hbears).mpr ⟨[], _, _, rfl, by decide +kernel, fun y hy hlogs => ?_⟩
    have hasks : ∀ y ∈ (start .epoch).traffic steps, y.request.asks? ≠ some (.post, .logout) := by
      decide +kernel
    exact hasks y (List.mem_cons_of_mem _ hy) hlogs.asks
  refine ⟨hada, by decide +kernel, ?_⟩
  refine (hlater leave _ _ rfl (by decide +kernel) ?_ rfl hbears rfl hbears).mpr hada
  -- The one who leaves bears a token that the first user was not given.
  rintro ⟨-, token, htoken, x, hx, hgrant⟩
  have hbob : leave.request.Bears (drawsFor 1).tokenText := by decide +kernel
  have hother : ∀ x ∈ (start .epoch).traffic steps,
      x.grants? ≠ some ((drawsFor 1).tokenText, 1) := by decide +kernel
  exact hother x hx (hbob.unique htoken ▸ hgrant)

end System
end Parley
