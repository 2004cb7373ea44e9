import Parley.Proofs.Http.Refusals

/-!
# Replies and effects of the service

`Call.answer_cases`: a request is answered without touching the database, in which case it asks for
options or its status is a refusal, or a handler served it. `Call.answer_work`: what it writes is one
piece of work that is open to clients.
-/

namespace Parley.Http

namespace Call

-- ---------------------------------------------------------------------------
-- Who is served
-- ---------------------------------------------------------------------------

variable {c : Call} {db db' : Database}

theorem authenticate_ok : c.authenticate = .ok u ↔ c.db.isOpen = true ∧
    ∃ token, c.request.bearerToken? = some token ∧
      c.db.committed.userIdByToken token = .ok u := by
  unfold authenticate
  split
  · rename_i h
    simp [h]
  · rename_i token h
    have hquery : (c.db.query fun t => t.userIdByToken token) = .ok u ↔ c.db.isOpen = true ∧
        c.db.committed.userIdByToken token = .ok u := Database.query_ok
    simp only [h, Option.some.injEq, exists_eq_left', ← hquery]
    cases hq : c.db.query fun t => t.userIdByToken token with
    | ok v => simp
    | error e => cases e <;> simp

theorem serve_ok (h : c.serve route db = .ok r db') : ∃ verb,
    route.verb? c.request.method = some verb ∧
    (route.isProtected = false ∧ c.servePublic route db = .ok r db' ∨
      route.isProtected = true ∧ ∃ u, c.authenticate = .ok u ∧
        c.serveUser u verb route db = .ok r db') := by
  simp only [serve] at h
  cases hverb : route.verb? c.request.method with
  | some verb =>
    cases hprotected : route.isProtected with
    | false =>
      simp only [hverb, hprotected] at h
      exact ⟨verb, rfl, .inl ⟨rfl, h⟩⟩
    | true =>
      simp only [hverb, hprotected, Attempt.bind_lift_ok] at h
      obtain ⟨u, hu, h⟩ := h
      exact ⟨verb, rfl, .inr ⟨rfl, u, hu, h⟩⟩
  | none =>
    rw [hverb] at h
    cases hprotected : route.isProtected <;> rw [hprotected] at h
    · cases h
    · cases hu : c.authenticate <;> rw [hu] at h <;> cases h

theorem status_servePublic (h : c.servePublic route db = .ok r db') : r.status < 300 := by
  cases route <;> simp only [servePublic, Attempt.throw_ok] at h
  case health =>
    obtain ⟨rfl, -⟩ := Attempt.pure_ok.mp h
    simp [Reply.text]
  case createAccount =>
    obtain ⟨form, u, -, -, rfl⟩ := createAccount_ok h
    simp [sessionReply, Reply.json]
  case login =>
    obtain ⟨form, u, -, -, -, -, rfl⟩ := login_ok h
    simp [sessionReply, Reply.json]

theorem status_serveUser (h : c.serveUser u verb route db = .ok r db') : r.status < 300 := by
  cases route <;> simp only [serveUser, Attempt.bind_lift_ok, Attempt.throw_ok] at h
  case logout => simp [(logout_ok h).2, Reply.empty]
  case searchUsers => simp [(searchUsers_ok h).2]
  case user =>
    obtain ⟨_, -, h⟩ := h
    obtain ⟨-, -, _, -, rfl⟩ := getUser_ok h
    simp [Reply.json]
  case inbox =>
    obtain ⟨-, _, -, rfl⟩ := listInbox_ok h
    simp [Reply.json]
  case conversation =>
    obtain ⟨_, -, h⟩ := h
    cases verb with
    | get => simp [(getConversation_ok h).2]
    | post =>
      obtain ⟨-, result, -, rfl⟩ := openConversation_ok h
      cases result.isNew <;> simp [Reply.json]
  case messages =>
    obtain ⟨_, -, h⟩ := h
    cases verb with
    | get =>
      obtain ⟨-, -, _, -, rfl⟩ := getMessages_ok h
      simp [Reply.json]
    | post =>
      obtain ⟨-, form, s, -, -, ⟨_, _, -, rfl⟩ | ⟨_, -, -, -, rfl⟩⟩ := sendMessage_ok h
      · simp [sentReply, Reply.json]
      · simp [sentReply, Reply.json]
  case readMarker =>
    obtain ⟨_, -, h⟩ := h
    simp [(markAsRead_ok h).2.2, Reply.empty]
  case unreadCount =>
    obtain ⟨_, -, h⟩ := h
    simp [(unreadCount_ok h).2.2, Reply.json]

theorem status_serve (h : c.serve route db = .ok r db') : r.status < 300 := by
  obtain ⟨verb, -, ⟨-, h⟩ | ⟨-, u, -, h⟩⟩ := serve_ok h
  · exact status_servePublic h
  · exact status_serveUser h

theorem answer_cases (c : Call) :
    (c.answer.2 = c.db ∧ (c.request.method = "OPTIONS" ∨ 400 ≤ c.answer.1.status)) ∨
    ∃ route r db', c.request.method ≠ "OPTIONS" ∧ Route.of? c.request.target = some route ∧
      c.serve route c.db = .ok r db' ∧ c.answer.2 = db' ∧ c.answer.1.status = r.status ∧
      (c.request.method ≠ "HEAD" → c.answer.1.content = r.content) := by
  by_cases hoptions : c.request.method = "OPTIONS"
  · exact .inl ⟨by simp [answer, hoptions], .inl hoptions⟩
  have hhead (r : Reply) :
      (if c.request.method = "HEAD" then r.headOnly else r).status = r.status := by
    split <;> rfl
  cases hroute : Route.of? c.request.target with
  | none =>
    refine .inl ⟨by simp [answer, hoptions, hroute], .inr ?_⟩
    simp [answer, hoptions, hroute, Reply.withHeaders, hhead, Reply.empty]
  | some route =>
    cases hserve : c.serve route c.db with
    | error r db' =>
      obtain ⟨hrefused, rfl⟩ := c.serve_fails route r db' hserve
      refine .inl ⟨by simp [answer, hoptions, hroute, hserve], .inr ?_⟩
      simpa [answer, hoptions, hroute, hserve, Reply.withHeaders, hhead] using hrefused.status_ge
    | ok r db' =>
      refine .inr ⟨route, r, db', hoptions, rfl, hserve, ?_, ?_, fun h => ?_⟩
      · simp [answer, hoptions, hroute, hserve]
      · simp [answer, hoptions, hroute, hserve, Reply.withHeaders, hhead]
      · simp [answer, hoptions, hroute, hserve, Reply.withHeaders, h]

end Call
end Parley.Http

namespace Parley

inductive Work.OfRequest (now : Instant) : Work → Prop where
  | createAccount : OfRequest now (.operation (.createAccount user token))
  | openDirect : OfRequest now (.operation (.getOrCreateDirect a b))
  | sendMessage : OfRequest now (.operation (.sendMessage m))
  | markAsRead : OfRequest now (.operation (.markAsRead c u))
  | createSession : OfRequest now (.change (.createSession u token now))
  | deleteSessions : OfRequest now (.change (.deleteSessions u))

theorem Work.Does.of_change {c : Change} {w : Tables → Except StoreError (Write α)} (hc : c.Is w)
    (h : Database.transact db (.change w) = .ok a db') : Work.Does now db db' (.change c) := by
  obtain ⟨hopen, d, hd, rfl⟩ := Database.transact_ok.mp h
  obtain ⟨hwritable, r, hr, -, rfl⟩ := Transaction.change_ok.mp hd
  obtain ⟨f, hf⟩ := hc
  refine .change (a := f r.answer) (Database.transact_ok.mpr ⟨hopen, _, ?_, rfl⟩)
  exact Transaction.change_ok.mpr ⟨hwritable, r.map f, by rw [hf, hr]; rfl, rfl, rfl⟩

namespace Http.Call

variable {c : Call}

theorem servePublic_work (h : c.servePublic route c.db = .ok r db') : db' = c.db ∨
    ∃ w, Work.OfRequest c.now w ∧ Work.Does c.now c.db db' w := by
  cases route <;> simp only [servePublic, Attempt.throw_ok] at h
  case health =>
    obtain ⟨-, rfl⟩ := Attempt.pure_ok.mp h
    exact .inl rfl
  case createAccount =>
    obtain ⟨form, u, -, hdb, -⟩ := createAccount_ok h
    exact .inr ⟨_, .createAccount, .operation (Database.map_ok.mpr ⟨_, hdb, rfl⟩)⟩
  case login =>
    obtain ⟨form, u, -, -, -, hdb, -⟩ := login_ok h
    exact .inr ⟨_, .createSession, .of_change Change.createSession_is hdb⟩

theorem serveUser_work (h : c.serveUser u verb route c.db = .ok r db') : db' = c.db ∨
    ∃ w, Work.OfRequest c.now w ∧ Work.Does c.now c.db db' w := by
  cases route <;> simp only [serveUser, Attempt.bind_lift_ok, Attempt.throw_ok] at h
  case logout =>
    obtain ⟨⟨n, hdb⟩, -⟩ := logout_ok h
    exact .inr ⟨_, .deleteSessions, .of_change Change.deleteSessions_is hdb⟩
  case searchUsers => exact .inl (searchUsers_ok h).1
  case user =>
    obtain ⟨_, -, h⟩ := h
    exact .inl (getUser_ok h).2.1
  case inbox => exact .inl (listInbox_ok h).1
  case conversation =>
    obtain ⟨_, -, h⟩ := h
    cases verb with
    | get => exact .inl (getConversation_ok h).1
    | post =>
      obtain ⟨-, result, hdb, -⟩ := openConversation_ok h
      exact .inr ⟨_, .openDirect, .operation (Database.map_ok.mpr ⟨_, hdb, rfl⟩)⟩
  case messages =>
    obtain ⟨_, -, h⟩ := h
    cases verb with
    | get => exact .inl (getMessages_ok h).2.1
    | post =>
      obtain ⟨-, form, s, -, hdb, -⟩ := sendMessage_ok h
      exact .inr ⟨_, .sendMessage, .operation (Database.map_ok.mpr ⟨_, hdb, rfl⟩)⟩
  case readMarker =>
    obtain ⟨_, -, h⟩ := h
    obtain ⟨-, hdb, -⟩ := markAsRead_ok h
    exact .inr ⟨_, .markAsRead, .operation (Database.map_ok.mpr ⟨_, hdb, rfl⟩)⟩
  case unreadCount =>
    obtain ⟨_, -, h⟩ := h
    exact .inl (unreadCount_ok h).2.1

theorem answer_work (c : Call) : c.answer.2 = c.db ∨
    ∃ w, Work.OfRequest c.now w ∧ Work.Does c.now c.db c.answer.2 w := by
  rcases answer_cases c with ⟨h, -⟩ | ⟨route, r, db', -, -, hserve, hdb, -, -⟩
  · exact .inl h
  · rw [hdb]
    obtain ⟨verb, -, ⟨-, h⟩ | ⟨-, u, -, h⟩⟩ := serve_ok hserve
    · exact servePublic_work h
    · exact serveUser_work h

theorem answer_isOpen (c : Call) : c.answer.2.isOpen = c.db.isOpen := by
  rcases answer_work c with h | ⟨w, -, hdoes⟩
  · rw [h]
  · exact hdoes.commits.isOpen

theorem answer_integrity (h : c.db.committed.Integrity) : c.answer.2.committed.Integrity := by
  rcases answer_work c with hdb | ⟨w, -, hdoes⟩
  · rw [hdb]
    exact h
  · exact hdoes.commits.reaches.integrity h

end Http.Call
end Parley
