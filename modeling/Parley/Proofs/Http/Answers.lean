import Parley.Proofs.Http.Service

/-!
# What replies say

What clients read in a request and its reply. A reply without an error to a request of some kind says
which operation was done and what it answered.
-/

namespace Parley

def Json.field? (name : String) : Json → Option Json
  | .obj fields => (fields.find? (·.1 == name)).map (·.2)
  | _ => none

namespace Http

namespace Reply

variable (r : Reply) (name : String)

def field? : Option Json :=
  match r.content with
  | .json j => j.field? name
  | _ => none

def int? : Option Int :=
  match r.field? name with
  | some (.int n) => some n
  | _ => none

def bool? : Option Bool :=
  match r.field? name with
  | some (.bool b) => some b
  | _ => none

def str? : Option String :=
  match r.field? name with
  | some (.str s) => some s
  | _ => none

variable {r : Reply} {name : String}

theorem field?_of_content {r' : Reply} (h : r.content = r'.content) :
    r.field? name = r'.field? name := by
  rw [field?, h, field?]

theorem int?_of_content {r' : Reply} (h : r.content = r'.content) : r.int? name = r'.int? name := by
  rw [int?, field?_of_content h, int?]

theorem bool?_of_content {r' : Reply} (h : r.content = r'.content) :
    r.bool? name = r'.bool? name := by
  rw [bool?, field?_of_content h, bool?]

theorem str?_of_content {r' : Reply} (h : r.content = r'.content) : r.str? name = r'.str? name := by
  rw [str?, field?_of_content h, str?]

end Reply

def Request.asks? (r : Request) : Option (Verb × Route) :=
  (Route.of? r.target).bind fun route => (route.verb? r.method).map (·, route)

theorem Request.asks?_iff {r : Request} : r.asks? = some (verb, route) ↔
    Route.of? r.target = some route ∧ route.verb? r.method = some verb := by
  simp only [asks?, Option.bind_eq_some_iff, Option.map_eq_some_iff, Prod.mk.injEq]
  constructor
  · rintro ⟨route', hroute, verb', hverb, rfl, rfl⟩
    exact ⟨hroute, hverb⟩
  · rintro ⟨hroute, hverb⟩
    exact ⟨route, hroute, verb, hverb, rfl, rfl⟩

theorem Route.method_of_post {route : Route} (h : route.verb? method = some .post) :
    method = "POST" := by
  unfold verb? at h
  split at h
  · cases h
  · split at h
    · rename_i hpost
      exact hpost.1
    · cases h

namespace Call

variable {c : Call} {db db' : Database} {segment : String}

structure Serves (c : Call) (verb : Verb) (route : Route) (r : Reply) : Prop where
  asks : c.request.asks? = some (verb, route)
  status : c.answer.1.status = r.status
  content : verb = .post → c.answer.1.content = r.content

/-- The database is left alone, or a handler serves the request. -/
theorem answer_serves (c : Call) :
    (c.answer.2 = c.db ∧ (c.request.asks? = none ∨ 400 ≤ c.answer.1.status)) ∨
    ∃ verb route r, c.Serves verb route r ∧
      (route.isProtected = false ∧ c.servePublic route c.db = .ok r c.answer.2 ∨
        route.isProtected = true ∧ ∃ u, c.authenticate = .ok u ∧
          c.serveUser u verb route c.db = .ok r c.answer.2) := by
  rcases answer_cases c with ⟨hdb, hoptions | herror⟩ | ⟨route, r, db', -, hroute, hserve, rfl,
    hstatus, hcontent⟩
  · exact .inl ⟨hdb, .inl (by simp [Request.asks?, hoptions, Route.verb?])⟩
  · exact .inl ⟨hdb, .inr herror⟩
  · obtain ⟨verb, hverb, hserved⟩ := serve_ok hserve
    refine .inr ⟨verb, route, r, ⟨?_, hstatus, fun hpost => hcontent ?_⟩, hserved⟩
    · simp [Request.asks?, hroute, hverb]
    · subst hpost
      rw [Route.method_of_post hverb]
      decide

theorem Serves.opened (hserves : c.Serves .post route r)
    (hserve : c.openConversation u v c.db = .ok r db') : ∃ result,
      c.db.getOrCreateDirect c.now u v = .ok result db' ∧ c.answer.1.status < 400 ∧
      c.answer.1.int? "conversation_id" = some result.conversation.id ∧
      c.answer.1.bool? "is_new" = some result.isNew := by
  obtain ⟨-, result, hresult, rfl⟩ := openConversation_ok hserve
  have hcontent := hserves.content rfl
  refine ⟨result, hresult, ?_, ?_, ?_⟩
  · rw [hserves.status]
    show (if result.isNew then 201 else 200) < 400
    split <;> decide
  · rw [Reply.int?_of_content hcontent]
    rfl
  · rw [Reply.bool?_of_content hcontent]
    rfl

theorem answer_allowed (h : c.request.asks? = some (verb, route)) (hok : c.answer.1.status < 400) :
    ∃ r, c.Serves verb route r ∧
      (route.isProtected = false ∧ c.servePublic route c.db = .ok r c.answer.2 ∨
        route.isProtected = true ∧ ∃ u, c.authenticate = .ok u ∧
          c.serveUser u verb route c.db = .ok r c.answer.2) := by
  rcases answer_serves c with ⟨-, hnone | herror⟩ | ⟨verb', route', r, hserves, hserved⟩
  · cases h.symm.trans hnone
  · omega
  · cases h.symm.trans hserves.asks
    exact ⟨r, hserves, hserved⟩

theorem answer_public (h : c.request.asks? = some (verb, route)) (hpublic : route.isProtected = false)
    (hok : c.answer.1.status < 400) : ∃ r, c.Serves verb route r ∧
      c.servePublic route c.db = .ok r c.answer.2 := by
  obtain ⟨r, hserves, ⟨-, hserve⟩ | ⟨hprotected, -⟩⟩ := answer_allowed h hok
  · exact ⟨r, hserves, hserve⟩
  · cases hpublic.symm.trans hprotected

theorem answer_asked (h : c.request.asks? = some (verb, route)) (hprotected : route.isProtected = true)
    (hok : c.answer.1.status < 400) : ∃ u r, c.Serves verb route r ∧ c.authenticate = .ok u ∧
      c.serveUser u verb route c.db = .ok r c.answer.2 := by
  obtain ⟨r, hserves, ⟨hpublic, -⟩ | ⟨-, u, hu, hserve⟩⟩ := answer_allowed h hok
  · cases hprotected.symm.trans hpublic
  · exact ⟨u, r, hserves, hu, hserve⟩

theorem answer_opens (h : c.request.asks? = some (.post, .conversation segment))
    (hok : c.answer.1.status < 400) : ∃ u v result, c.authenticate = .ok u ∧ pathId segment = .ok v ∧
      c.db.getOrCreateDirect c.now u v = .ok result c.answer.2 ∧
      c.answer.1.int? "conversation_id" = some result.conversation.id ∧
      c.answer.1.bool? "is_new" = some result.isNew := by
  obtain ⟨u, r, hserves, hu, hserve⟩ := answer_asked h rfl hok
  simp only [serveUser, Attempt.bind_lift_ok] at hserve
  obtain ⟨v, hv, hserve⟩ := hserve
  obtain ⟨result, hresult, -, hid, hnew⟩ := hserves.opened hserve
  exact ⟨u, v, result, hu, hv, hresult, hid, hnew⟩

theorem answer_marks (h : c.request.asks? = some (.post, .readMarker segment))
    (hok : c.answer.1.status < 400) : ∃ u i, c.authenticate = .ok u ∧ pathId segment = .ok i ∧
      c.db.markAsRead c.now i u = .ok () c.answer.2 := by
  obtain ⟨u, r, -, hu, hserve⟩ := answer_asked h rfl hok
  simp only [serveUser, Attempt.bind_lift_ok] at hserve
  obtain ⟨i, hi, hserve⟩ := hserve
  exact ⟨u, i, hu, hi, (markAsRead_ok hserve).2.1⟩

theorem answer_sends (h : c.request.asks? = some (.post, .messages segment))
    (hok : c.answer.1.status = 201) : ∃ u i m message row, c.authenticate = .ok u ∧
      pathId segment = .ok i ∧ m.conversationId = i ∧ m.senderId = u ∧
      c.db.sendMessage c.now m = .ok (.sent message row) c.answer.2 := by
  obtain ⟨u, r, hserves, hu, hserve⟩ := answer_asked h rfl (by omega)
  simp only [serveUser, Attempt.bind_lift_ok] at hserve
  obtain ⟨i, hi, hserve⟩ := hserve
  obtain ⟨-, form, s, -, hs, ⟨message, row, rfl, -⟩ | ⟨message, -, -, -, rfl⟩⟩ :=
    sendMessage_ok hserve
  · exact ⟨u, i, _, message, row, hu, hi, rfl, rfl, hs⟩
  · -- The reply to a message that was there before has another status.
    have hstatus := hserves.status
    rw [hok] at hstatus
    cases hstatus

theorem answer_served (hasks : c.request.asks? = some (.post, route))
    (h : c.serve route c.db = .ok r db') :
    c.answer = (r.withHeaders originHeaders, db') := by
  obtain ⟨hroute, hverb⟩ := Request.asks?_iff.mp hasks
  simp [answer, hroute, h, Route.method_of_post hverb]

theorem answer_declined (hasks : c.request.asks? = some (.post, route))
    (h : c.serve route c.db = .error r db') : c.answer = (r.withHeaders originHeaders, c.db) := by
  obtain ⟨hroute, hverb⟩ := Request.asks?_iff.mp hasks
  obtain ⟨-, rfl⟩ := c.serve_fails route r db' h
  simp [answer, hroute, h, Route.method_of_post hverb]

-- ---------------------------------------------------------------------------
-- What is refused
-- ---------------------------------------------------------------------------

theorem answer_refused (h : 400 ≤ c.answer.1.status) : c.answer.1.status = 404 ∨
    ∃ route r, Route.of? c.request.target = some route ∧ c.Refused route r ∧
      c.answer.1.status = r.status := by
  by_cases hoptions : c.request.method = "OPTIONS"
  · simp [answer, hoptions, Reply.withHeaders, preflight, Reply.empty] at h
  have hhead (r : Reply) :
      (if c.request.method = "HEAD" then r.headOnly else r).status = r.status := by
    split <;> rfl
  cases hroute : Route.of? c.request.target with
  | none =>
    left
    simp [answer, hoptions, hroute, Reply.withHeaders, hhead, Reply.empty]
  | some route =>
    cases hserve : c.serve route c.db with
    | ok r db' =>
      have hstatus : c.answer.1.status = r.status := by
        simp [answer, hoptions, hroute, hserve, Reply.withHeaders, hhead]
      have := status_serve hserve
      omega
    | error r db' =>
      refine .inr ⟨route, r, rfl, (c.serve_fails route r db' hserve).1, ?_⟩
      simp [answer, hoptions, hroute, hserve, Reply.withHeaders, hhead]

theorem answer_error (hasks : c.request.asks? = some (verb, route))
    (h : c.serve route c.db = .error r db') : c.answer.1.status = r.status := by
  obtain ⟨hroute, hverb⟩ := Request.asks?_iff.mp hasks
  have hoptions : c.request.method ≠ "OPTIONS" := by
    intro hoptions
    simp [Route.verb?, hoptions] at hverb
  simp only [answer, hroute, h, if_neg hoptions, Reply.withHeaders]
  split <;> rfl

theorem serve_asked (hasks : c.request.asks? = some (verb, route))
    (hprotected : route.isProtected = true) (hu : c.authenticate = .ok u) :
    c.serve route db = c.serveUser u verb route db := by
  simp only [serve, (Request.asks?_iff.mp hasks).2, hprotected, hu, Attempt.bind_apply,
    Attempt.lift_apply]

end Call
end Http
end Parley
