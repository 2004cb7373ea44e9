import Parley.Proofs.Http.Reflects
import Parley.Proofs.Run.Gate
import Parley.Proofs.Run.Own

/-!
# Tokens that are granted

The exchanges that give a token to a user, and those that end all tokens of a user. Nothing else
touches the sessions (`answer_turns`).
-/

namespace Parley

theorem Tables.OwnWrite.sessions_eq {t t' : Tables} (h : t.OwnWrite u route t')
    (hroute : route ≠ .logout) : t'.sessions = t.sessions := by
  cases h with
  | loggedOut => exact absurd rfl hroute
  | nothing | opened | sent | marked => rfl

namespace Http

-- ---------------------------------------------------------------------------
-- What exchanges say
-- ---------------------------------------------------------------------------

namespace Exchange

def grants? (x : Exchange) : Option (String × Int) :=
  match x.request.asks? with
  | some (.post, .createAccount) | some (.post, .login) =>
    if x.reply.status = 200 then do
      return (← x.reply.str? "token", ← x.reply.int? "user_id")
    else none
  | _ => none

structure IsLogout (x : Exchange) : Prop where
  asks : x.request.asks? = some (.post, .logout)
  status : x.reply.status = 204

/-- The user, who was given the token of the request in one of the exchanges, has logged out. -/
structure LogsOut (x : Exchange) (all : List Exchange) (u : Int) : Prop extends x.IsLogout where
  bearer : ∃ token, x.request.Bears token ∧ ∃ y ∈ all, y.grants? = some (token, u)

variable {x : Exchange}

theorem grants?_of_status (h : x.reply.status ≠ 200) : x.grants? = none := by
  unfold grants?
  split <;> simp [h]

theorem grants?_of_asks_none (h : x.request.asks? = none) : x.grants? = none := by
  simp [grants?, h]

theorem grants?_of_route (h : x.request.asks? = some (verb, route))
    (hcreate : route ≠ .createAccount) (hlogin : route ≠ .login) : x.grants? = none := by
  unfold grants?
  rw [h]
  split <;> simp_all

theorem grants?_of_session (hasks : x.request.asks? = some (.post, .createAccount) ∨
      x.request.asks? = some (.post, .login)) (hstatus : x.reply.status = 200)
    (hcontent : x.reply.content = (Call.sessionReply token u name).content) :
    x.grants? = some (token, u) := by
  have htoken : x.reply.str? "token" = some token := Reply.str?_of_content hcontent
  have hid : x.reply.int? "user_id" = some u := Reply.int?_of_content hcontent
  rcases hasks with hasks | hasks <;> simp [grants?, hasks, hstatus, htoken, hid]

end Exchange

-- ---------------------------------------------------------------------------
-- What an answer does to sessions
-- ---------------------------------------------------------------------------

namespace Call

variable {c : Call}

/-- A new session is given its token, or the sessions of a user are ended, or they all stay. -/
inductive Turns (c : Call) : Prop where
  | granted (hgrant : c.exchange.grants? = some (token, u)) (hstays : ¬ c.exchange.IsLogout)
      (hnew : ∀ session ∈ c.db.committed.sessions.rows, session.token ≠ token)
      (h : c.answer.2.committed.sessions =
        c.db.committed.sessions.add (c.db.committed.sessionRow u token c.now))
  | ended (hgrant : c.exchange.grants? = none) (hends : c.exchange.IsLogout)
      (hu : c.authenticate = .ok u)
      (h : c.answer.2.committed.sessions = c.db.committed.sessions.remove (·.userId == u))
  | kept (hgrant : c.exchange.grants? = none) (hstays : ¬ c.exchange.IsLogout)
      (h : c.answer.2.committed.sessions = c.db.committed.sessions)

theorem not_isLogout (hasks : c.request.asks? = some (verb, route)) (hroute : route ≠ .logout) :
    ¬ c.exchange.IsLogout := by
  rintro ⟨hasks', -⟩
  cases hasks.symm.trans hasks'
  exact hroute rfl

theorem turns_servePublic (hserves : c.Serves verb route r)
    (h : c.servePublic route c.db = .ok r c.answer.2) : c.Turns := by
  cases route <;> simp only [servePublic, Attempt.throw_ok] at h
  case health =>
    obtain ⟨-, hdb⟩ := Attempt.pure_ok.mp h
    exact .kept (Exchange.grants?_of_route hserves.asks (by simp) (by simp))
      (not_isLogout hserves.asks (by simp)) (by rw [← hdb])
  case createAccount =>
    obtain ⟨hasks, hcontent⟩ := hserves.post rfl
    obtain ⟨form, u, -, hcreate, rfl⟩ := createAccount_ok h
    obtain ⟨hnew, rfl, hdb⟩ := Database.createAccount_ok hcreate
    refine .granted (Exchange.grants?_of_session (.inl hasks) hserves.status hcontent)
      (not_isLogout hasks (by simp)) hnew ?_
    rw [hdb]
    rfl
  case login =>
    obtain ⟨hasks, hcontent⟩ := hserves.post rfl
    obtain ⟨form, u, -, -, -, hcreate, rfl⟩ := login_ok h
    obtain ⟨-, -, w, hw, -, hdb⟩ := Database.transact_change_ok.mp hcreate
    obtain ⟨hnew, -, rfl⟩ := Tables.createSession_ok.mp hw
    refine .granted (Exchange.grants?_of_session (.inr hasks) hserves.status hcontent)
      (not_isLogout hasks (by simp)) hnew ?_
    rw [hdb]
    rfl

theorem turns_serveUser (ht : c.db.committed.Integrity) (hserves : c.Serves verb route r)
    (hprotected : route.isProtected = true) (hu : c.authenticate = .ok u)
    (h : c.serveUser u verb route c.db = .ok r c.answer.2) : c.Turns := by
  have hgrant : c.exchange.grants? = none := by
    refine Exchange.grants?_of_route hserves.asks ?_ ?_ <;> rintro rfl <;> cases hprotected
  by_cases hroute : route = .logout
  · subst hroute
    obtain ⟨hasks, -⟩ := hserves.post rfl
    simp only [serveUser] at h
    obtain ⟨⟨n, hdelete⟩, rfl⟩ := logout_ok h
    obtain ⟨-, -, w, hw, -, hdb⟩ := Database.transact_change_ok.mp hdelete
    obtain rfl := Tables.deleteSessions_ok.mp hw
    refine .ended hgrant ⟨hasks, hserves.status⟩ hu ?_
    rw [hdb]
    rfl
  · exact .kept hgrant (not_isLogout hserves.asks hroute) ((serveUser_own ht h).sessions_eq hroute)

theorem answer_turns (ht : c.db.committed.Integrity) : c.Turns := by
  rcases answer_serves c with ⟨hdb, hnone⟩ |
    ⟨verb, route, r, hserves, ⟨-, h⟩ | ⟨hprotected, u, hu, h⟩⟩
  · have hsame : c.answer.2.committed.sessions = c.db.committed.sessions := by rw [hdb]
    rcases hnone with hasks | herror
    · refine .kept (Exchange.grants?_of_asks_none hasks) (fun hends => ?_) hsame
      cases hasks.symm.trans hends.asks
    · have hstatus (n : Nat) (hn : n < 400) : c.exchange.reply.status ≠ n := by
        rintro rfl
        exact absurd herror (not_le.mpr hn)
      exact .kept (Exchange.grants?_of_status (hstatus 200 (by decide)))
        (fun hends => hstatus 204 (by decide) hends.status) hsame
  · exact turns_servePublic hserves h
  · exact turns_serveUser ht hserves hprotected hu h

/-- A request that ends a session is a logout of its user. -/
theorem answer_sessions (ht : c.db.committed.Integrity) :
    ∀ x ∈ c.db.committed.sessions.rows, x ∈ c.answer.2.committed.sessions.rows ∨
      c.request.asks? = some (.post, .logout) ∧ c.authenticate = .ok x.userId := by
  intro x hx
  cases answer_turns ht with
  | granted _ _ _ h =>
    rw [h]
    exact .inl (List.mem_append_left _ hx)
  | @ended u _ hends hu h =>
    by_cases hx' : x.userId = u
    · exact .inr ⟨hends.asks, hx' ▸ hu⟩
    · rw [h]
      exact .inl (Table.mem_rows_remove.mpr ⟨hx, beq_false_of_ne hx'⟩)
  | kept _ _ h => exact .inl (h ▸ hx)

end Call
end Http
end Parley
