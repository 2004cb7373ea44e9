import Parley.Proofs.Http.History
import Parley.Proofs.Store.Direct

/-!
# What exchanges tell is what has happened

`Tables.Effect now t event t'`: an event, or none, with what it does to the tables. `Call.effect` says
that a request does to the tables what its exchange tells.
-/

namespace Parley

open Http (Event Exchange History)

/-- What an event at the time `now` does to the tables. -/
inductive Tables.Effect (now : Instant) (t : Tables) : Option Event → Tables → Prop where
  | rest : Effect now t none t
  | joined (user : NewUser) : (∀ s ∈ t.sessions.rows, s.token ≠ token) →
      Effect now t (some (.named token t.users.nextId user.username))
        (t.withAccount user token now)
  | returned : u ∈ t.users.rows → (∀ s ∈ t.sessions.rows, s.token ≠ token) →
      Effect now t (some (.named token u.id u.username))
        { t with sessions := t.sessions.add (t.sessionRow u.id token now) }
  | left : Effect now t (some (.left u))
      { t with sessions := t.sessions.remove (·.userId == u) }
  | found : Pair.of u v = .ok pair → t.findDirect pair = .ok c →
      Effect now t (some (.opened u v c false)) t
  | founded : Pair.of u v = .ok pair → t.findDirect pair = .error e →
      Effect now t (some (.opened u v t.conversations.nextId true))
        (t.withConversation (some pair.key) pair.low pair.high now)
  | sent : t.isParticipant m.conversationId m.senderId = true →
      t.conversationById m.conversationId = .ok row →
      Effect now t (some (.sent m.senderId m.conversationId))
        (t.withMessage m (max now row.updatedAt.instant))
  | read : t.isParticipant c u = true →
      Effect now t (some (.read u c)) (t.markRead c u now)

namespace Http

theorem Route.hasGet_of_get {route : Route} (h : route.verb? method = some .get) :
    route.hasGet = true := by
  unfold verb? at h
  split at h
  · rename_i hget
    exact hget.2
  · split at h <;> cases h

/-- Whether requests of the kind may tell something. -/
def Route.tells : Route → Bool
  | createAccount | login | logout | conversation _ | messages _ | readMarker _ => true
  | _ => false

theorem pathNumber?_of_pathId {segment : String} (h : Call.pathId segment = .ok n) :
    pathNumber? segment = some n := by
  rw [pathNumber?, mapError_ok.mp h]
  rfl

namespace Exchange

variable {x : Exchange} {h : History} {segment : String}

theorem event?_of_error (herror : 400 ≤ x.reply.status) : x.event? h = none := if_pos herror

theorem event?_of_asks_none (hasks : x.request.asks? = none) : x.event? h = none := by
  simp [event?, hasks]

theorem event?_of_quiet (hasks : x.request.asks? = some (verb, route))
    (hquiet : route.tells = false) : x.event? h = none := by
  cases route <;> cases hquiet <;> cases verb <;> simp [event?, hasks]

theorem event?_get (hasks : x.request.asks? = some (.get, route)) : x.event? h = none := by
  simp [event?, hasks]

theorem event?_named (hstatus : x.reply.status < 400)
    (hasks : x.request.asks? = some (.post, .createAccount) ∨
      x.request.asks? = some (.post, .login))
    (hcontent : x.reply.content = (Call.sessionReply token u name).content) :
    x.event? h = some (.named token u name) := by
  have htoken : x.reply.str? "token" = some token := Reply.str?_of_content hcontent
  have hid : x.reply.int? "user_id" = some u := Reply.int?_of_content hcontent
  have hname : x.reply.str? "username" = some name := Reply.str?_of_content hcontent
  rcases hasks with hasks | hasks <;>
    simp [event?, not_le.mpr hstatus, hasks, htoken, hid, hname]

theorem event?_left (hstatus : x.reply.status < 400)
    (hasks : x.request.asks? = some (.post, .logout)) (hasker : h.asker x.request = some u) :
    x.event? h = some (.left u) := by
  simp [event?, not_le.mpr hstatus, hasks, hasker]

theorem event?_opened (hstatus : x.reply.status < 400)
    (hasks : x.request.asks? = some (.post, .conversation segment))
    (hasker : h.asker x.request = some u) (hv : pathNumber? segment = some v)
    (hc : x.reply.int? "conversation_id" = some c) (hnew : x.reply.bool? "is_new" = some isNew) :
    x.event? h = some (.opened u v c isNew) := by
  simp [event?, not_le.mpr hstatus, hasks, hasker, hv, hc, hnew]

theorem event?_sent (hstatus : x.reply.status = 201)
    (hasks : x.request.asks? = some (.post, .messages segment))
    (hasker : h.asker x.request = some u) (hc : pathNumber? segment = some c) :
    x.event? h = some (.sent u c) := by
  simp [event?, hstatus, hasks, hasker, hc]

theorem event?_duplicate (hstatus : x.reply.status ≠ 201)
    (hasks : x.request.asks? = some (.post, .messages segment)) : x.event? h = none := by
  simp [event?, hstatus, hasks]

theorem event?_read (hstatus : x.reply.status < 400)
    (hasks : x.request.asks? = some (.post, .readMarker segment))
    (hasker : h.asker x.request = some u) (hc : pathNumber? segment = some c) :
    x.event? h = some (.read u c) := by
  simp [event?, not_le.mpr hstatus, hasks, hasker, hc]

end Exchange

namespace Call

variable {c : Call} {h : History}

theorem Serves.post (hserves : Serves c verb route r) (hget : route.hasGet = false) :
    c.request.asks? = some (.post, route) ∧ c.answer.1.content = r.content := by
  cases verb with
  | get =>
    have := Route.hasGet_of_get (Request.asks?_iff.mp hserves.asks).2
    rw [hget] at this
    cases this
  | post => exact ⟨hserves.asks, hserves.content rfl⟩

def exchange (c : Call) : Exchange := ⟨c.now, c.request, c.answer.1⟩

theorem effect_servePublic (hserves : Serves c verb route r)
    (hserve : c.servePublic route c.db = .ok r c.answer.2) :
    c.db.committed.Effect c.now (c.exchange.event? h) c.answer.2.committed := by
  cases route <;> simp only [servePublic, Attempt.throw_ok] at hserve
  case health =>
    obtain ⟨-, hdb⟩ := Attempt.pure_ok.mp hserve
    rw [Exchange.event?_of_quiet (x := c.exchange) hserves.asks rfl, ← hdb]
    exact .rest
  case createAccount =>
    obtain ⟨hasks, hcontent⟩ := hserves.post rfl
    obtain ⟨form, u, -, hcreate, rfl⟩ := createAccount_ok hserve
    obtain ⟨htoken, rfl, hdb⟩ := Database.createAccount_ok hcreate
    have hstatus : c.answer.1.status = 200 := hserves.status
    rw [Exchange.event?_named (x := c.exchange) (by simp [exchange, hstatus]) (.inl hasks) hcontent,
      hdb]
    exact .joined ⟨form.username, form.email, Password.hash c.draws.salt form.password, customerRole⟩
      htoken
  case login =>
    obtain ⟨hasks, hcontent⟩ := hserves.post rfl
    obtain ⟨form, u, -, hu, -, hcreate, rfl⟩ := login_ok hserve
    obtain ⟨-, -, w, hw, -, hdb⟩ := Database.transact_change_ok.mp hcreate
    obtain ⟨htoken, -, rfl⟩ := Tables.createSession_ok.mp hw
    have hstatus : c.answer.1.status = 200 := hserves.status
    rw [Exchange.event?_named (x := c.exchange) (by simp [exchange, hstatus]) (.inr hasks) hcontent,
      hdb]
    exact .returned (List.mem_of_find?_eq_some (found_ok.mp (Database.query_ok.mp hu).2)) htoken

theorem effect_serveUser (hserves : Serves c verb route r) (hasker : h.asker c.request = some u)
    (hserve : c.serveUser u verb route c.db = .ok r c.answer.2) :
    c.db.committed.Effect c.now (c.exchange.event? h) c.answer.2.committed := by
  -- A request that only reads tells nothing and leaves the database alone.
  have hrest (hevent : c.exchange.event? h = none) (hdb : c.answer.2 = c.db) :
      c.db.committed.Effect c.now (c.exchange.event? h) c.answer.2.committed := by
    rw [hevent, hdb]
    exact .rest
  cases route <;> simp only [serveUser, Attempt.bind_lift_ok, Attempt.throw_ok] at hserve
  case logout =>
    obtain ⟨hasks, -⟩ := hserves.post rfl
    obtain ⟨⟨n, hdelete⟩, rfl⟩ := logout_ok hserve
    obtain ⟨-, -, w, hw, -, hdb⟩ := Database.transact_change_ok.mp hdelete
    obtain rfl := Tables.deleteSessions_ok.mp hw
    have hstatus : c.answer.1.status = 204 := hserves.status
    rw [Exchange.event?_left (x := c.exchange) (by simp [exchange, hstatus]) hasks hasker, hdb]
    exact .left
  case searchUsers =>
    exact hrest (Exchange.event?_of_quiet hserves.asks rfl) (searchUsers_ok hserve).1
  case user segment =>
    obtain ⟨_, -, hserve⟩ := hserve
    exact hrest (Exchange.event?_of_quiet hserves.asks rfl) (getUser_ok hserve).2.1
  case inbox => exact hrest (Exchange.event?_of_quiet hserves.asks rfl) (listInbox_ok hserve).1
  case conversation segment =>
    obtain ⟨v, hv, hserve⟩ := hserve
    cases verb with
    | get => exact hrest (Exchange.event?_get hserves.asks) (getConversation_ok hserve).1
    | post =>
      obtain ⟨result, hopen, hok, hid, hnew⟩ := hserves.opened hserve
      have hevent := Exchange.event?_opened (x := c.exchange) (h := h) hok hserves.asks hasker
        (pathNumber?_of_pathId hv) hid hnew
      obtain ⟨pair, hpair, ⟨hnew, hdb, hfind, -⟩ | ⟨hnew, ⟨e, hnone⟩, -, -, -, hrow, hdb⟩⟩ :=
        Database.getOrCreateDirect_cases hopen
      · rw [hevent, hnew, hdb]
        exact .found hpair hfind
      · rw [hevent, hnew, hrow, hdb]
        exact .founded hpair hnone
  case messages segment =>
    obtain ⟨conversation, hc, hserve⟩ := hserve
    cases verb with
    | get => exact hrest (Exchange.event?_get hserves.asks) (getMessages_ok hserve).2.1
    | post =>
      obtain ⟨hmember, form, outcome, -, hsend, hcases⟩ := sendMessage_ok hserve
      rcases Database.sendMessage_cases hsend with ⟨row, hrow, -, ⟨_, rfl⟩, hdb⟩ |
        ⟨m', -, rfl, hdb⟩
      · obtain ⟨_, _, -, rfl⟩ | ⟨_, heq, -⟩ := hcases
        · have hstatus : c.answer.1.status = 201 := hserves.status
          rw [Exchange.event?_sent (x := c.exchange) hstatus hserves.asks hasker
            (pathNumber?_of_pathId hc), hdb]
          exact .sent hmember hrow
        · cases heq
      · obtain ⟨_, _, heq, -⟩ | ⟨_, -, -, -, rfl⟩ := hcases
        · cases heq
        · have hstatus : c.answer.1.status = 200 := hserves.status
          exact hrest (Exchange.event?_duplicate (by simp [exchange, hstatus]) hserves.asks) hdb
  case readMarker segment =>
    obtain ⟨conversation, hc, hserve⟩ := hserve
    obtain ⟨hmember, hread, rfl⟩ := markAsRead_ok hserve
    have hstatus : c.answer.1.status = 204 := hserves.status
    rw [Exchange.event?_read (x := c.exchange) (by simp [exchange, hstatus]) (hserves.post rfl).1
      hasker (pathNumber?_of_pathId hc), Database.markAsRead_ok hread]
    exact .read hmember
  case unreadCount segment =>
    obtain ⟨_, -, hserve⟩ := hserve
    exact hrest (Exchange.event?_of_quiet hserves.asks rfl) (unreadCount_ok hserve).2.1

/-- A request does to the tables what its exchange tells, if the history knows who has which token.
-/
theorem effect (c : Call) (h : History) (htokens : ∀ token u,
    c.db.committed.userIdByToken token = .ok u → History.holder token h = some u) :
    c.db.committed.Effect c.now (c.exchange.event? h) c.answer.2.committed := by
  rcases answer_serves c with ⟨hdb, hnone⟩ | ⟨verb, route, r, hserves, hserved⟩
  · have hevent : c.exchange.event? h = none := by
      rcases hnone with hasks | herror
      · exact Exchange.event?_of_asks_none (x := c.exchange) hasks
      · exact Exchange.event?_of_error (x := c.exchange) herror
    rw [hevent, hdb]
    exact .rest
  · rcases hserved with ⟨-, hserve⟩ | ⟨-, u, hu, hserve⟩
    · exact effect_servePublic hserves hserve
    · obtain ⟨-, token, htoken, huser⟩ := authenticate_ok.mp hu
      refine effect_serveUser hserves ?_ hserve
      rw [History.asker, htoken]
      exact htokens token u huser

end Call
end Http
end Parley
