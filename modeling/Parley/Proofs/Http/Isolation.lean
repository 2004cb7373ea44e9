import Parley.Proofs.Http.Effect
import Parley.Proofs.Store.Isolation

/-!
# What a user can read

Two databases may differ in conversations that a user takes no part in. If they agree in everything
else, each request of the user that only reads is answered the same way in both (`reads_isolated`).
-/

namespace Parley.Http

def SameReply (r r' : EStateM.Result Reply Database α) : Prop := withoutState r' = withoutState r

namespace SameReply

variable {x x' : Handler α} {f f' : α → Handler β} {db db' : Database}

theorem bind (h : SameReply (x db) (x' db')) (hx : x.Keeps) (hx' : x'.Keeps)
    (hf : ∀ a, x db = .ok a db → SameReply (f a db) (f' a db')) :
    SameReply ((x >>= f) db) ((x' >>= f') db') := by
  rw [Attempt.bind_apply, Attempt.bind_apply]
  unfold SameReply at h
  cases hr : x db with
  | ok a t =>
    cases hr' : x' db' with
    | ok a' t' =>
      rw [hr, hr'] at h
      obtain rfl := Except.ok.inj h
      obtain rfl := hx.ok hr
      obtain rfl := hx'.ok hr'
      exact hf _ hr
    | error e t' => rw [hr, hr'] at h; cases h
  | error e t =>
    cases hr' : x' db' with
    | ok a' t' => rw [hr, hr'] at h; cases h
    | error e' t' =>
      rw [hr, hr'] at h
      obtain rfl := Except.error.inj h
      rfl

theorem bind_lift {y : Except Reply α} (hf : ∀ a, y = .ok a → SameReply (f a db) (f' a db')) :
    SameReply ((liftM y >>= f) db) ((liftM y >>= f') db') := by
  rw [Attempt.bind_apply, Attempt.bind_apply, Attempt.lift_apply, Attempt.lift_apply]
  cases y with
  | ok a => exact hf a rfl
  | error r => rfl

end SameReply

namespace Call

/-- The same request, made to databases that look the same to the user. -/
structure AgreeFor (u : Int) (c c' : Call) : Prop where
  request : c'.request = c.request
  isOpen : c'.db.isOpen = c.db.isOpen
  tables : c.db.committed.AgreeFor u c'.db.committed

namespace AgreeFor

open Handler (read_keeps)

variable {c c' : Call}

theorem query (h : c.AgreeFor u c') {q : Tables → Except StoreError α}
    (hq : q c'.db.committed = q c.db.committed) : c'.db.query q = c.db.query q := by
  rw [Database.query, h.isOpen, hq, Database.query]

theorem read (h : c.AgreeFor u c') {q : Tables → Except StoreError α}
    (hq : q c'.db.committed = q c.db.committed) :
    SameReply (Handler.read refuse q c.db) (Handler.read refuse q c'.db) := by
  simp only [Handler.read, Handler.store, Database.read, h.query hq]
  cases c.db.query q <;> rfl

theorem read_error (h : c.AgreeFor u c') {q : Tables → Except StoreError α}
    (hq : ∀ e, q c'.db.committed = .error e ↔ q c.db.committed = .error e) :
    Handler.read refuse q c'.db = .error r c'.db ↔ Handler.read refuse q c.db = .error r c.db := by
  simp only [Handler.read_error, Database.query_error, h.isOpen, hq, and_true]

theorem page (h : c.AgreeFor u c') (n : Int) : c'.page n = c.page n := by
  rw [Call.page, h.request, Call.page]

theorem requireParticipant (h : c.AgreeFor u c') (id : Int) :
    SameReply (Call.requireParticipant id u c.db) (Call.requireParticipant id u c'.db) := by
  refine .bind (h.read (by rw [h.tables.member])) (read_keeps _ _) (read_keeps _ _) fun b _ => ?_
  cases b <;> rfl

theorem authenticate (h : c.AgreeFor u c') : c'.authenticate = c.authenticate := by
  have hquery (token : String) :=
    h.query (q := (·.userIdByToken token)) (h.tables.userIdByToken token)
  simp only [Call.authenticate, h.request, hquery]

-- ---------------------------------------------------------------------------
-- Handlers
-- ---------------------------------------------------------------------------

theorem getUser (h : c.AgreeFor u c') (id : Int) :
    SameReply (Call.getUser u id c.db) (Call.getUser u id c'.db) := by
  unfold Call.getUser
  split
  · rfl
  · exact .bind (h.read (h.tables.userById u)) (read_keeps _ _) (read_keeps _ _) fun _ _ => rfl

theorem listInbox (h : c.AgreeFor u c') :
    SameReply (c.listInbox u c.db) (c'.listInbox u c'.db) := by
  rw [Call.listInbox, Call.listInbox, h.page]
  refine .bind_lift fun page _ =>
    .bind (h.read ?_) (read_keeps _ _) (read_keeps _ _) fun _ _ => rfl
  rw [h.tables.listInbox]

theorem getConversation (h : c.AgreeFor u c') (id : Int) :
    SameReply (Call.getConversation u id c.db) (Call.getConversation u id c'.db) := by
  cases hmember : c.db.committed.isParticipant id u with
  | true =>
    refine .bind (h.read (h.tables.conversationById hmember)) (read_keeps _ _) (read_keeps _ _)
      fun conversation _ => .bind (h.requireParticipant id) (requireParticipant_keeps _ _)
        (requireParticipant_keeps _ _) fun _ _ =>
      .bind (h.read ?_) (read_keeps _ _) (read_keeps _ _) fun _ _ => rfl
    rw [h.tables.participants id hmember]
  | false =>
    -- The conversation itself may differ, but it is looked at only for whether it is there.
    have hread {r : Reply} :
        Handler.read .ofStoreError (·.conversationById id) c'.db = .error r c'.db ↔
          Handler.read .ofStoreError (·.conversationById id) c.db = .error r c.db :=
      h.read_error fun e => h.tables.conversationById_error
    rw [Call.getConversation, Attempt.bind_apply, Attempt.bind_apply]
    cases hfind : Handler.read .ofStoreError (·.conversationById id) c.db with
    | error r t =>
      obtain rfl := (read_keeps _ _).error hfind
      rw [hread.mpr hfind]
      rfl
    | ok row t =>
      obtain rfl := (read_keeps _ _).ok hfind
      cases hfind' : Handler.read .ofStoreError (·.conversationById id) c'.db with
      | error r t =>
        obtain rfl := (read_keeps _ _).error hfind'
        rw [hread.mp hfind'] at hfind
        cases hfind
      | ok row' t' =>
        obtain rfl := (read_keeps _ _).ok hfind'
        refine .bind (h.requireParticipant id) (requireParticipant_keeps _ _)
          (requireParticipant_keeps _ _) fun _ hok => ?_
        rw [(requireParticipant_ok hok).1] at hmember
        cases hmember

theorem getMessages (h : c.AgreeFor u c') (id : Int) :
    SameReply (c.getMessages u id c.db) (c'.getMessages u id c'.db) := by
  rw [Call.getMessages, Call.getMessages, h.page]
  refine .bind_lift fun page _ => .bind (h.requireParticipant id) (requireParticipant_keeps _ _)
    (requireParticipant_keeps _ _) fun _ hmember =>
    .bind (h.read ?_) (read_keeps _ _) (read_keeps _ _) fun _ _ => rfl
  rw [h.tables.listMessages (requireParticipant_ok hmember).1]

theorem unreadCount (h : c.AgreeFor u c') (id : Int) :
    SameReply (Call.unreadCount u id c.db) (Call.unreadCount u id c'.db) := by
  refine .bind (h.requireParticipant id) (requireParticipant_keeps _ _)
    (requireParticipant_keeps _ _) fun _ hmember =>
    .bind (h.read ?_) (read_keeps _ _) (read_keeps _ _) fun _ _ => rfl
  rw [h.tables.countUnread (requireParticipant_ok hmember).1]

-- ---------------------------------------------------------------------------
-- Requests
-- ---------------------------------------------------------------------------

theorem serveUser (h : c.AgreeFor u c') (hget : route.hasGet = true) :
    SameReply (c.serveUser u .get route c.db) (c'.serveUser u .get route c'.db) := by
  cases route <;> simp only [Call.serveUser]
  case user id => exact .bind_lift fun i _ => h.getUser i
  case inbox => exact h.listInbox
  case conversation id => exact .bind_lift fun i _ => h.getConversation i
  case messages id => exact .bind_lift fun i _ => h.getMessages i
  case unreadCount id => exact .bind_lift fun i _ => h.unreadCount i
  all_goals cases hget <;> rfl

theorem serve (h : c.AgreeFor u c') (hu : ∀ v, c.authenticate = .ok v → v = u)
    (hmethod : c.request.method ≠ "POST") (route : Route) :
    SameReply (c.serve route c.db) (c'.serve route c'.db) := by
  simp only [Call.serve, h.request, h.authenticate]
  cases hverb : route.verb? c.request.method with
  | none =>
    cases route.isProtected with
    | false => rfl
    | true => cases c.authenticate <;> rfl
  | some verb =>
    cases verb with
    | post => exact absurd (Route.method_of_post hverb) hmethod
    | get =>
      have hget := Route.hasGet_of_get hverb
      cases hprotected : route.isProtected with
      | false => cases route <;> first | rfl | cases hget
      | true =>
        refine .bind_lift fun v hv => ?_
        obtain rfl := hu v hv
        exact h.serveUser hget

theorem answer (h : c.AgreeFor u c')
    (hserve : ∀ route, SameReply (c.serve route c.db) (c'.serve route c'.db))
    (hoptions : c.request.method ≠ "OPTIONS") : c'.answer.1 = c.answer.1 := by
  simp only [Call.answer, h.request, if_neg hoptions]
  cases Route.of? c.request.target with
  | none => rfl
  | some route =>
    have hreply := hserve route
    unfold SameReply at hreply
    cases hx : c.serve route c.db <;> cases hx' : c'.serve route c'.db <;>
      rw [hx, hx'] at hreply <;> cases hreply <;> simp only [hx, hx']

end AgreeFor

/-- A request of `u` that only reads is answered alike by databases that look the same to `u`. -/
theorem reads_isolated (c c' : Call) (token : String) (u : Int) (h : c.AgreeFor u c')
    (hmethod : c.request.method = "GET" ∨ c.request.method = "HEAD")
    (htoken : c.request.bearerToken? = some token)
    (hu : c.db.committed.userIdByToken token = .ok u) : c'.answer.1 = c.answer.1 := by
  refine h.answer (h.serve (fun v hv => ?_) ?_) ?_
  · obtain ⟨-, token', htoken', hv⟩ := authenticate_ok.mp hv
    obtain rfl := Option.some.inj (htoken.symm.trans htoken')
    exact Except.ok.inj (hv.symm.trans hu)
  · rcases hmethod with hmethod | hmethod <;> simp [hmethod]
  · rcases hmethod with hmethod | hmethod <;> simp [hmethod]

/-- Two conversations, of which the first of three users takes part in one. -/
def twoChats : System :=
  ((System.start .epoch).run
    [⟨none, .store (.createAccount ⟨"ada", "ada@example.org", "h", "customer"⟩ "t1")⟩,
      ⟨none, .store (.createAccount ⟨"bob", "bob@example.org", "h", "customer"⟩ "t2")⟩,
      ⟨none, .store (.createAccount ⟨"cyd", "cyd@example.org", "h", "customer"⟩ "t3")⟩,
      ⟨none, .store (.getOrCreateDirect 1 2)⟩, ⟨none, .store (.getOrCreateDirect 2 3)⟩]).2

theorem foreign_message_unseen :
    let asked : Request := ⟨"GET", "/api/conversations", [("authorization", "Bearer t1")], []⟩
    let draws : Draws := ⟨.replicate 32 0, .replicate 16 0, .replicate 16 0⟩
    let later := twoChats.db.committed.withMessage ⟨2, 3, "aGk=", "k"⟩ .epoch
    later ≠ twoChats.db.committed ∧
    (answer ⟨asked, .epoch, draws, { twoChats.db with committed := later }⟩).1 =
      (answer ⟨asked, .epoch, draws, twoChats.db⟩).1 :=
  ⟨by decide +kernel, reads_isolated _ _ "t1" 1
    ⟨rfl, rfl, Tables.agreeFor_withMessage (by decide +kernel)⟩ (.inl rfl) (by decide +kernel)
    (by decide +kernel)⟩

end Call
end Parley.Http
