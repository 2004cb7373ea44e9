import Parley.Proofs.Http.Effect
import Parley.Proofs.Run.Inbox
import Parley.Proofs.Run.Resend

/-!
# Requests that change nothing

Each route that writes has a status of its own for having written (`Route.written?`). Whatever is
answered otherwise leaves the database as it was, with all that is held (`quiet_changes_nothing`).
-/

namespace Parley
namespace Http

/-- The status of a post to the route that has written something. -/
def Route.written? : Route → Option Nat
  | .createAccount | .login => some 200
  | .conversation _ | .messages _ => some 201
  | .logout | .readMarker _ => some 204
  | _ => none

theorem Route.written?_range {route : Route} (h : route.written? = some status) :
    200 ≤ status ∧ status < 300 := by
  cases route <;> cases h <;> decide

/-- With this status the request was refused, or it only read, or it asked for what was there. -/
inductive Request.Quiet (r : Request) (status : Nat) : Prop where
  | refused (h : status < 200 ∨ 300 ≤ status)
  | reading (h : r.method = "GET" ∨ r.method = "HEAD" ∨ r.method = "OPTIONS")
  | sentBefore {segment : String} (h : status = 200)
      (hasks : r.asks? = some (.post, .messages segment))
  | openBefore {segment : String} (h : status = 200)
      (hasks : r.asks? = some (.post, .conversation segment))
  | search (h : status = 200) (hasks : r.asks? = some (.post, .searchUsers))

namespace Call

variable {c : Call} {route : Route} {r : Reply} {db' : Database}

-- ---------------------------------------------------------------------------
-- What has written something
-- ---------------------------------------------------------------------------

def Written (c : Call) : Prop :=
  ∃ route, c.request.asks? = some (.post, route) ∧ route.written? = some c.answer.1.status

theorem Serves.written (hserves : c.Serves verb route r)
    (hasks : c.request.asks? = some (.post, route)) (hstatus : route.written? = some r.status) :
    c.Written :=
  ⟨route, hasks, hserves.status ▸ hstatus⟩

theorem openConversation_quiet (h : c.openConversation u v c.db = .ok r db') :
    db' = c.db ∨ r.status = 201 := by
  obtain ⟨-, result, hopen, rfl⟩ := openConversation_ok h
  obtain ⟨pair, -, ⟨-, hdb, -⟩ | ⟨hnew, -⟩⟩ := Database.getOrCreateDirect_cases hopen
  · exact .inl hdb
  · exact .inr (by simp [hnew, Reply.json])

theorem sendMessage_quiet (h : c.sendMessage u n c.db = .ok r db') :
    db' = c.db ∨ r.status = 201 := by
  obtain ⟨-, form, s, -, hsend, ⟨m, row, rfl, rfl⟩ | ⟨m, rfl, -⟩⟩ := sendMessage_ok h
  · exact .inr rfl
  · obtain ⟨_, -, _, ⟨_, heq⟩, -⟩ | ⟨_, -, -, hdb⟩ := Database.sendMessage_cases hsend
    · cases heq
    · exact .inl hdb

theorem servePublic_quiet (hserves : c.Serves verb route r)
    (h : c.servePublic route c.db = .ok r c.answer.2) : c.answer.2 = c.db ∨ c.Written := by
  cases route <;> simp only [servePublic, Attempt.throw_ok] at h
  case health => exact .inl (Attempt.pure_ok.mp h).2.symm
  case createAccount =>
    obtain ⟨_, _, -, -, rfl⟩ := createAccount_ok h
    exact .inr (hserves.written (hserves.post rfl).1 rfl)
  case login =>
    obtain ⟨_, _, -, -, -, -, rfl⟩ := login_ok h
    exact .inr (hserves.written (hserves.post rfl).1 rfl)

theorem serveUser_quiet (hserves : c.Serves verb route r)
    (h : c.serveUser u verb route c.db = .ok r c.answer.2) : c.answer.2 = c.db ∨ c.Written := by
  cases route <;> simp only [serveUser, Attempt.bind_lift_ok, Attempt.throw_ok] at h
  case logout =>
    obtain ⟨-, rfl⟩ := logout_ok h
    exact .inr (hserves.written (hserves.post rfl).1 rfl)
  case searchUsers => exact .inl (searchUsers_ok h).1
  case user =>
    obtain ⟨_, -, h⟩ := h
    exact .inl (getUser_ok h).2.1
  case inbox => exact .inl (listInbox_ok h).1
  case conversation =>
    obtain ⟨_, -, h⟩ := h
    cases verb with
    | get => exact .inl (getConversation_ok h).1
    | post =>
      refine (openConversation_quiet h).imp_right fun hstatus => ?_
      exact hserves.written hserves.asks (congrArg some hstatus.symm)
  case messages =>
    obtain ⟨_, -, h⟩ := h
    cases verb with
    | get => exact .inl (getMessages_ok h).2.1
    | post =>
      refine (sendMessage_quiet h).imp_right fun hstatus => ?_
      exact hserves.written hserves.asks (congrArg some hstatus.symm)
  case readMarker =>
    obtain ⟨_, -, h⟩ := h
    obtain ⟨-, -, rfl⟩ := markAsRead_ok h
    exact .inr (hserves.written (hserves.post rfl).1 rfl)
  case unreadCount =>
    obtain ⟨_, -, h⟩ := h
    exact .inl (unreadCount_ok h).2.1

theorem answer_written (c : Call) : c.answer.2 = c.db ∨ c.Written := by
  rcases answer_serves c with ⟨hdb, -⟩ | ⟨verb, route, r, hserves, ⟨-, h⟩ | ⟨-, u, -, h⟩⟩
  · exact .inl hdb
  · exact servePublic_quiet hserves h
  · exact serveUser_quiet hserves h

theorem not_written_of_quiet (hquiet : c.request.Quiet c.answer.1.status) : ¬ c.Written := by
  rintro ⟨route, hasks, hwritten⟩
  have hpost := Route.method_of_post (Request.asks?_iff.mp hasks).2
  -- Where writing has another status than asking for what is there, it is not 200.
  have hroute (hstatus : c.answer.1.status = 200) {route' : Route}
      (hasks' : c.request.asks? = some (.post, route')) : route'.written? = some 200 := by
    cases hasks.symm.trans hasks'
    rw [hwritten, hstatus]
  cases hquiet with
  | refused hstatus =>
    have := Route.written?_range hwritten
    omega
  | reading hmethod => simp [hpost] at hmethod
  | sentBefore hstatus hsend => cases hroute hstatus hsend
  | openBefore hstatus hopen => cases hroute hstatus hopen
  | search hstatus hsearch => cases hroute hstatus hsearch

end Call
end Http

namespace System

/-- Whatever state a session is in, a request that is refused, that only reads, or that is told what
was there before, leaves the database with its counters and its held transaction as they were. -/
theorem quiet_changes_nothing (s : System) (time : Option Instant) (r : Http.Request)
    (draws : Draws) : ∃ reply, (s.step ⟨time, .request r draws⟩).1 = .reply reply ∧
      (r.Quiet reply.status → (s.step ⟨time, .request r draws⟩).2.db = s.db) := by
  let c : Http.Call := ⟨r, time.getD s.clock, draws, s.db⟩
  refine ⟨c.answer.1, rfl, fun hquiet => ?_⟩
  exact c.answer_written.resolve_right (Http.Call.not_written_of_quiet hquiet)

/-- The greeting is sent again, and somebody registers while a transaction has the write lock. -/
theorem quiet_after_greeting :
    let s := ((start .epoch).run greeting).2
    let again : Http.Request := ⟨"POST", "/api/conversations/1/messages",
      [("content-type", "application/json"), ("authorization", "Bearer t1")],
      Http.bytesOf "[\"eW8=\", \"k\"]"⟩
    let locked := (s.run [⟨none, .beginHeld⟩,
      ⟨none, .statement true (.change (.deleteSessions 1))⟩]).2
    let register := requestFor 0 "POST" "/api/account/create"
      "[\"cy\", \"cy@example.org\", \"pw\"]"
    (s.step ⟨none, .request again (drawsFor 0)⟩).2.db = s.db ∧ locked.db.isLocked = true ∧
      (locked.step ⟨none, .request register (drawsFor 0)⟩).2.db = locked.db := by
  intro s again locked register
  have hagain : (Http.Call.answer ⟨again, s.clock, drawsFor 0, s.db⟩).1.status = 200 := by
    decide +kernel
  have hregister : 300 ≤
      (Http.Call.answer ⟨register, locked.clock, drawsFor 0, locked.db⟩).1.status := by
    decide +kernel
  refine ⟨?_, by decide +kernel, ?_⟩
  · obtain ⟨reply, hreply, hquiet⟩ := quiet_changes_nothing s none again (drawsFor 0)
    cases hreply
    have hasks : again.asks? = some (.post, .messages "1") := by decide +kernel
    exact hquiet (.sentBefore hagain hasks)
  · obtain ⟨reply, hreply, hquiet⟩ := quiet_changes_nothing locked none register (drawsFor 0)
    cases hreply
    exact hquiet (.refused (.inr hregister))

end System
end Parley
