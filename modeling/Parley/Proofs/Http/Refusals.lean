import Parley.Proofs.Http.Handlers
import Parley.Proofs.Store.Refusals

/-!
# Why the service refuses

A handler refuses a request for what its client asks, because the store cannot be written or read, or
because a stored hash cannot be read (`Call.Refusal`). It may also not know who asks, and two handlers
have a reason of their own, so `Call.Refused` is about a route. Whatever the reason, and however far
the handler has come, the database is as the request found it (`Call.serve_fails`).
-/

namespace Parley.Http

-- ---------------------------------------------------------------------------
-- What a client has to mend
-- ---------------------------------------------------------------------------

/-- What was asked for is refused, whoever asks. -/
def Reply.BlamesClient (r : Reply) : Prop := 400 ≤ r.status ∧ r.status < 500 ∧ r.status ≠ 401

instance (r : Reply) : Decidable r.BlamesClient := inferInstanceAs (Decidable (_ ∧ _ ∧ _))

theorem Reply.ofPathFault_client (f : PathFault) : (ofPathFault f).BlamesClient := by
  cases f <;> simp [BlamesClient, ofPathFault, text]

theorem Reply.ofQueryFault_client (f : QueryFault) : (ofQueryFault f).BlamesClient := by
  simp [BlamesClient, ofQueryFault, text]

theorem Reply.ofStoreError_client (h : e.BlamesCaller) : (ofStoreError e).BlamesClient := by
  cases h <;> simp [BlamesClient, ofStoreError, refusal, json]

def Reply.BlamesBody (r : Reply) : Prop :=
  r.status = 400 ∨ r.status = 413 ∨ r.status = 415 ∨ r.status = 422

theorem Reply.ofBodyFault_body (f : Json.Fault) : (ofBodyFault f).BlamesBody := by
  cases f <;> simp [BlamesBody, ofBodyFault, text]

theorem Reply.BlamesBody.client {r : Reply} (h : r.BlamesBody) : r.BlamesClient := by
  unfold BlamesBody at h
  unfold BlamesClient
  omega

theorem Request.readAs_fails (r : Request) (form : Json.Form)
    (build : List (Option String) → Option α) : FailsOnly Reply.BlamesBody (r.readAs form build) := by
  refine .check (.inr (.inr (.inl rfl))) fun _ => .check (.inr (.inl rfl)) fun _ => ?_
  refine .bind (.mapped Reply.ofBodyFault_body) fun values _ => ?_
  split
  · exact .pure _
  · exact .throw (Reply.ofBodyFault_body _)

-- ---------------------------------------------------------------------------
-- Handlers
-- ---------------------------------------------------------------------------

namespace Handler

variable {db : Database} {P : Reply → Prop} {refuse : StoreError → Reply}

theorem store_fails {E : StoreError → Prop} {x : Database → Database.Result α}
    (h : FailsLeaving db E (x db)) (hrefuse : ∀ e, E e → P (refuse e)) :
    FailsLeaving db P (store refuse x db) := by
  intro r db' hr
  obtain ⟨e, he, rfl⟩ := store_error.mp hr
  exact (h e db' he).imp_left (hrefuse e)

theorem read_fails (h : FailsOnly StoreError.BlamesCaller (q db.committed))
    (hrefuse : ∀ e, db.Refuses e → P (refuse e)) : FailsLeaving db P (read refuse q db) :=
  store_fails (Database.read_fails h) hrefuse

end Handler

namespace Call

open Handler (read_fails read_keeps store_fails)

/-- Why a handler refuses. -/
inductive Refusal (c : Call) : Reply → Prop where
  | client : r.BlamesClient → Refusal c r
  | closed : c.db.isOpen = false → r.status = 500 → Refusal c r
  | locked : c.db.isLocked = true → r.status = 503 → Refusal c r
  | badHash : user ∈ c.db.committed.users.rows →
      Password.verify password user.passwordHash = .error fault → r.status = 500 → Refusal c r

variable {c : Call}

theorem Refusal.ofStoreError (h : c.db.Refuses e) : c.Refusal (.ofStoreError e) := by
  cases h with
  | caller h => exact .client (Reply.ofStoreError_client h)
  | closed h => exact .closed h rfl
  | locked h => exact .locked h rfl

theorem Refusal.status_ge (h : c.Refusal r) : 400 ≤ r.status := by
  cases h with
  | client h => exact h.1
  | closed _ h | badHash _ _ h => simp [h]
  | locked _ h => simp [h]

theorem Refusal.status_ne (h : c.Refusal r) : r.status ≠ 401 := by
  cases h with
  | client h => exact h.2.2
  | closed _ h | badHash _ _ h => simp [h]
  | locked _ h => simp [h]

theorem Refusal.isLocked (h : c.Refusal r) (hbusy : r.status = 503) : c.db.isLocked = true := by
  cases h with
  | client h => exact absurd h.2.1 (by omega)
  | closed _ h | badHash _ _ h => omega
  | locked hlocked => exact hlocked

theorem Refusal.broken (h : c.Refusal r) (hfails : r.status = 500) : c.db.isOpen = false ∨
    ∃ user ∈ c.db.committed.users.rows, ∃ password fault,
      Password.verify password user.passwordHash = .error fault := by
  cases h with
  | client h => exact absurd h.2.1 (by omega)
  | closed hclosed => exact .inl hclosed
  | locked _ h => omega
  | badHash huser hfault => exact .inr ⟨_, huser, _, _, hfault⟩

variable (c)

theorem form_fails (form : Json.Form) (build : List (Option String) → Option α) :
    FailsOnly c.Refusal (c.request.readAs form build) :=
  (c.request.readAs_fails form build).mono fun _ hr => .client hr.client

theorem refuseAccount_refusal (e : StoreError) (h : c.db.Refuses e) : c.Refusal (refuseAccount e) := by
  unfold refuseAccount
  split
  · exact .client (by decide)
  · exact .ofStoreError h

theorem refuseOther_refusal (e : StoreError) (h : c.db.Refuses e) : c.Refusal (refuseOther e) := by
  unfold refuseOther
  split
  · exact .client (by decide)
  · exact .ofStoreError h

theorem page_fails (n : Int) : FailsOnly c.Refusal (c.page n) :=
  .bind (.mapped fun fault => .client (Reply.ofQueryFault_client fault)) fun _ _ => .pure _

theorem requireContent_fails (content : String) : FailsOnly c.Refusal (requireContent content) :=
  .check (.client (by decide)) fun _ =>
    .ite (fun _ => .throw (.client (by decide))) fun _ => .pure _

theorem requireParticipant_fails (i u : Int) :
    FailsLeaving c.db c.Refusal (requireParticipant i u c.db) :=
  .bind_keeps (read_keeps _ _) (read_fails (.ok _) fun _ => .ofStoreError) fun _ _ =>
    .ite (fun _ => FailsLeaving.throw (.client (by decide))) fun _ => .pure _ _

theorem createAccount_fails : FailsLeaving c.db c.Refusal (c.createAccount c.db) := by
  refine .bind_lift (c.form_fails _ _) fun form _ => ?_
  refine .check (.client (by decide)) fun _ => .check (.client (by decide)) fun _ =>
    .check (.client (by decide)) fun _ => ?_
  exact .bind (store_fails Database.createAccount_fails c.refuseAccount_refusal) fun _ _ _ =>
    .pure _ _

theorem logout_fails (u : Int) : FailsLeaving c.db c.Refusal (logout u c.db) :=
  .bind (store_fails (Database.transact_fails (.change Change.deleteSessions_is))
    fun _ => .ofStoreError) fun _ _ _ => .pure _ _

theorem getUser_fails (u i : Int) : FailsLeaving c.db c.Refusal (getUser u i c.db) :=
  .check (.client (by decide)) fun _ =>
    .bind (read_fails (.found fun _ => .notFound) fun _ => .ofStoreError) fun _ _ _ => .pure _ _

theorem listInbox_fails (u : Int) : FailsLeaving c.db c.Refusal (c.listInbox u c.db) :=
  .bind_lift (c.page_fails _) fun _ _ =>
    .bind (read_fails (.ok _) fun _ => .ofStoreError) fun _ _ _ => .pure _ _

theorem getConversation_fails (u i : Int) :
    FailsLeaving c.db c.Refusal (getConversation u i c.db) :=
  .bind_keeps (read_keeps _ _)
    (read_fails (.found fun _ => .notFound) fun _ => .ofStoreError) fun _ _ =>
    .bind_keeps (requireParticipant_keeps _ _) (c.requireParticipant_fails _ _) fun _ _ =>
      .bind (read_fails (.ok _) fun _ => .ofStoreError) fun _ _ _ => .pure _ _

theorem getMessages_fails (u i : Int) : FailsLeaving c.db c.Refusal (c.getMessages u i c.db) :=
  .bind_lift (c.page_fails _) fun _ _ =>
    .bind_keeps (requireParticipant_keeps _ _) (c.requireParticipant_fails _ _) fun _ _ =>
      .bind (read_fails (.ok _) fun _ => .ofStoreError) fun _ _ _ => .pure _ _

theorem sendMessage_fails (u i : Int) : FailsLeaving c.db c.Refusal (c.sendMessage u i c.db) := by
  refine .bind_lift (c.form_fails _ _) fun form _ =>
    .bind_lift (c.requireContent_fails _) fun _ _ =>
    .bind_keeps (requireParticipant_keeps _ _) (c.requireParticipant_fails _ _) fun _ _ =>
    .bind (store_fails Database.sendMessage_fails fun _ => .ofStoreError) fun s db' hs => ?_
  cases s with
  | sent m row => exact .pure _ _
  | duplicate m =>
    -- Here the store has done its work, but all that it did was to find the message.
    rcases Database.sendMessage_cases (Handler.store_ok.mp hs) with
      ⟨_, -, -, ⟨_, heq⟩, -⟩ | ⟨_, -, -, rfl⟩
    · cases heq
    · exact FailsLeaving.check (.client (by decide)) fun _ => .pure _ _

theorem markAsRead_fails (u i : Int) : FailsLeaving c.db c.Refusal (c.markAsRead u i c.db) :=
  .bind_keeps (requireParticipant_keeps _ _) (c.requireParticipant_fails _ _) fun _ _ =>
    .bind (store_fails Database.markAsRead_fails fun _ => .ofStoreError) fun _ _ _ => .pure _ _

theorem unreadCount_fails (u i : Int) : FailsLeaving c.db c.Refusal (unreadCount u i c.db) :=
  .bind_keeps (requireParticipant_keeps _ _) (c.requireParticipant_fails _ _) fun _ _ =>
    .bind (store_fails Database.unreadCount_fails fun _ => .ofStoreError) fun _ _ _ => .pure _ _

theorem pathId_fails (segment : String) : FailsOnly c.Refusal (pathId segment) :=
  .mapped fun fault => .client (Reply.ofPathFault_client fault)

-- ---------------------------------------------------------------------------
-- Reasons of one route
-- ---------------------------------------------------------------------------

variable {c}

/-- Why a request for a route is refused. -/
inductive Refused (c : Call) (route : Route) : Reply → Prop where
  | handler : c.Refusal r → Refused c route r
  | stranger : (route.isProtected = true → ∀ u, c.authenticate ≠ .ok u) → r.status = 401 →
      Refused c route r
  | overlong : route = .searchUsers → route.verb? c.request.method = some verb →
      c.authenticate = .ok u → UserSearch.read c.request = .ok form →
      Pattern.maxBytes < (Pattern.containing (Text.trim form.username)).utf8ByteSize →
      r.status = 500 → Refused c route r
  | hidden {segment : String} : route = .conversation segment →
      route.verb? c.request.method = some .post →
      c.authenticate = .ok u → pathId segment = .ok v → c.db.committed.hasUser v = true →
      Pair.of u v = .ok pair → (c.db.committed.Integrity → c.db.committed.Hidden pair) →
      r.status = 503 → Refused c route r

theorem Refused.status_ge (h : c.Refused route r) : 400 ≤ r.status := by
  cases h with
  | handler h => exact h.status_ge
  | stranger _ h => simp [h]
  | overlong _ _ _ _ _ h => simp [h]
  | hidden _ _ _ _ _ _ _ h => simp [h]

variable (c)

theorem refuseLogin_refused (e : StoreError) (h : c.db.Refuses e) :
    c.Refused .login (refuseLogin e) := by
  unfold refuseLogin
  split
  · exact .stranger (by rintro ⟨⟩) rfl
  · exact .handler (.ofStoreError h)

theorem login_fails : FailsLeaving c.db (c.Refused .login) (c.login c.db) := by
  refine .bind_lift ((c.form_fails _ _).mono fun _ => .handler) fun form _ => ?_
  refine .bind_keeps (read_keeps _ _)
    (read_fails (.found fun _ => .notFound) c.refuseLogin_refused) fun user huser => ?_
  cases hverify : Password.verify form.password user.passwordHash with
  | error fault =>
    have hmem := List.mem_of_find?_eq_some (found_ok.mp (Handler.read_ok.mp huser).2.1)
    exact FailsLeaving.throw (.handler (.badHash hmem hverify rfl))
  | ok isRight =>
    cases isRight with
    | false => exact FailsLeaving.throw (.stranger (by rintro ⟨⟩) rfl)
    | true =>
      refine .bind (store_fails ?_ fun _ h => .handler (.ofStoreError h)) fun _ _ _ => .pure _ _
      exact Database.transact_fails (.change Change.createSession_is)

theorem servePublic_fails (route : Route) :
    FailsLeaving c.db (c.Refused route) (c.servePublic route c.db) := by
  cases route <;> simp only [servePublic]
  case health => exact .pure _ _
  case createAccount => exact c.createAccount_fails.mono fun _ => .handler
  case login => exact c.login_fails
  all_goals exact .throw (.handler (.client (by decide)))

theorem searchUsers_fails (hu : c.authenticate = .ok u)
    (hverb : Route.searchUsers.verb? c.request.method = some verb) :
    FailsLeaving c.db (c.Refused .searchUsers) (c.searchUsers c.db) := by
  refine .bind_lift ((c.form_fails _ _).mono fun _ => .handler) fun form hform => ?_
  refine .check (.handler (.client (by decide))) fun _ => .bind ?_ fun _ _ _ => .pure _ _
  intro r db' hr
  obtain ⟨e, he, rfl, rfl⟩ := Handler.read_error.mp hr
  refine ⟨?_, rfl⟩
  rcases Database.query_error.mp he with ⟨hclosed, rfl⟩ | ⟨-, he⟩
  · exact .handler (.closed hclosed rfl)
  · obtain ⟨rfl, hlong⟩ := c.db.committed.searchUsers_fails _ _ e he
    exact .overlong rfl hverb hu hform hlong rfl

theorem openConversation_fails {segment : String} (hu : c.authenticate = .ok u)
    (hv : pathId segment = .ok v)
    (hverb : (Route.conversation segment).verb? c.request.method = some .post) :
    FailsLeaving c.db (c.Refused (.conversation segment)) (c.openConversation u v c.db) := by
  refine .check (.handler (.client (by decide))) fun _ => ?_
  refine .bind_keeps (read_keeps _ _) (read_fails (.found fun _ => .notFound) fun e he =>
    .handler (c.refuseOther_refusal e he)) fun user huser => ?_
  have hhas : c.db.committed.hasUser v = true :=
    Tables.userById_iff.mpr ⟨user, (Handler.read_ok.mp huser).2.1⟩
  refine .bind (store_fails Database.getOrCreateDirect_fails ?_) fun _ _ _ => .pure _ _
  rintro e (he | ⟨pair, hpair, hhidden, rfl⟩)
  · exact .handler (.ofStoreError he)
  · exact .hidden rfl hverb hu hv hhas hpair hhidden rfl

theorem serveUser_fails (hu : c.authenticate = .ok u)
    (hverb : route.verb? c.request.method = some verb) :
    FailsLeaving c.db (c.Refused route) (c.serveUser u verb route c.db) := by
  have hplain {x : Handler Reply} (h : FailsLeaving c.db c.Refusal (x c.db)) :
      FailsLeaving c.db (c.Refused route) (x c.db) := h.mono fun _ => .handler
  have hid (segment : String) : FailsOnly (c.Refused route) (pathId segment) :=
    (c.pathId_fails segment).mono fun _ => .handler
  cases route <;> simp only [serveUser]
  case logout => exact hplain (c.logout_fails u)
  case searchUsers => exact c.searchUsers_fails hu hverb
  case user id => exact .bind_lift (hid id) fun i _ => hplain (c.getUser_fails u i)
  case inbox => exact hplain (c.listInbox_fails u)
  case conversation id =>
    refine .bind_lift (hid id) fun i hi => ?_
    cases verb with
    | get => exact hplain (c.getConversation_fails u i)
    | post => exact c.openConversation_fails hu hi hverb
  case messages id =>
    refine .bind_lift (hid id) fun i _ => ?_
    cases verb with
    | get => exact hplain (c.getMessages_fails u i)
    | post => exact hplain (c.sendMessage_fails u i)
  case readMarker id => exact .bind_lift (hid id) fun i _ => hplain (c.markAsRead_fails u i)
  case unreadCount id => exact .bind_lift (hid id) fun i _ => hplain (c.unreadCount_fails u i)
  all_goals exact .throw (.handler (.client (by decide)))

theorem authenticate_error (hu : c.authenticate = .error r) (hr : r'.status = r.status) :
    c.Refused route r' := by
  have hunknown : r.status = 401 → c.Refused route r' := fun h =>
    .stranger (fun _ u hok => by simp [hok] at hu) (hr.trans h)
  unfold authenticate at hu
  split at hu
  · cases hu
    exact hunknown rfl
  · split at hu
    · cases hu
    · cases hu
      exact hunknown rfl
    · next e hnot he =>
      cases hu
      rcases Database.query_error.mp he with ⟨hclosed, -⟩ | ⟨-, he⟩
      · exact .handler (.closed hclosed hr)
      · exact absurd (found_error.mp he).2 (hnot _)

theorem serve_fails (route : Route) :
    FailsLeaving c.db (c.Refused route) (c.serve route c.db) := by
  have hverbless : c.Refused route ((Reply.empty 405).withHeaders [("allow", route.allowed)]) :=
    .handler (.client (by simp [Reply.BlamesClient, Reply.withHeaders, Reply.empty]))
  simp only [serve]
  cases hverb : route.verb? c.request.method with
  | some verb =>
    cases route.isProtected with
    | false => exact c.servePublic_fails route
    | true =>
      exact .bind_lift (fun _ hu => c.authenticate_error hu rfl) fun u hu =>
        c.serveUser_fails hu hverb
  | none =>
    cases route.isProtected with
    | false => exact .throw hverbless
    | true =>
      cases hu : c.authenticate with
      | ok u => exact .throw hverbless
      | error r => exact .throw (c.authenticate_error hu rfl)

end Call
end Parley.Http
