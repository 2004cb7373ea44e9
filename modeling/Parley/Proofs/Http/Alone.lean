import Parley.Proofs.Http.Service
import Parley.Proofs.Store.Alone

/-!
# Requests beside a held transaction

Beside a held transaction a request is answered as it is without one, or with a status that says to
try again, and then it has done nothing (`Call.answer_alone`).
-/

namespace Parley.Http

def Reply.isBusy (r : Reply) : Bool := r.status == 503

theorem isBusy_ofStoreError (e : StoreError) :
    (Reply.ofStoreError e).isBusy = e.isRetryable := by
  cases e <;> rfl

/-- Without the held transaction it does the same, unless it is refused for now. -/
abbrev Handler.Yields (x : Handler α) : Prop :=
  Attempt.YieldsTo Database.alone (·.isBusy = true) x

theorem Handler.Yields.store {x : Database → Database.Result α} {refuse : StoreError → Reply}
    (hx : Database.Yields x) (h : ∀ e, e.isRetryable = true → (refuse e).isBusy = true) :
    (store refuse x).Yields := by
  intro db
  unfold Handler.store
  rcases hx db with ⟨e, db', hrefused, he⟩ | hsame
  · rw [hrefused]
    exact .refused (h e he)
  · rw [hsame]
    cases x db <;> exact .inr rfl

theorem Handler.Yields.read (refuse : StoreError → Reply) (q : Tables → Except StoreError α) :
    (read refuse q).Yields := by
  intro db
  refine .inr ?_
  simp only [Handler.read, Handler.store, Database.read, Database.query_alone]
  cases db.query q <;> rfl

namespace Call

def alone (c : Call) : Call := { c with db := c.db.alone }

variable (c : Call)

@[simp] theorem request_alone : c.alone.request = c.request := rfl
@[simp] theorem db_alone : c.alone.db = c.db.alone := rfl
@[simp] theorem preflight_alone : c.alone.preflight = c.preflight := rfl

-- ---------------------------------------------------------------------------
-- Handlers
-- ---------------------------------------------------------------------------

open Handler (Yields)

theorem busy_of_retryable (e : StoreError) (h : e.isRetryable = true) :
    (Reply.ofStoreError e).isBusy = true :=
  (isBusy_ofStoreError e).trans h

theorem createAccount_yields : c.createAccount.Yields := by
  refine .bind (.lift _) fun form => .check (.check (.check ?_))
  refine .bind (Yields.store (Database.createAccount_yields _ _ _) fun e he => ?_) fun _ => .pure _
  cases e <;> cases he
  rfl

theorem login_yields : c.login.Yields := by
  refine .bind (.lift _) fun form => .bind (Yields.read _ _) fun user => ?_
  split
  · exact .throw _
  · exact .throw _
  · exact .bind (Yields.store (.transact (.change _)) busy_of_retryable) fun _ => .pure _

theorem logout_yields (u : Int) : (logout u).Yields :=
  .bind (Yields.store (.transact (.change _)) busy_of_retryable) fun _ => .pure _

theorem requireParticipant_yields (i u : Int) : (requireParticipant i u).Yields :=
  .bind (Yields.read _ _) fun _ => .ite (.throw _) (.pure _)

theorem getUser_yields (u i : Int) : (getUser u i).Yields :=
  .check (.bind (Yields.read _ _) fun _ => .pure _)

theorem searchUsers_yields : c.searchUsers.Yields :=
  .bind (.lift _) fun _ => .check (.bind (Yields.read _ _) fun _ => .pure _)

theorem listInbox_yields (u : Int) : (c.listInbox u).Yields :=
  .bind (.lift _) fun _ => .bind (Yields.read _ _) fun _ => .pure _

theorem openConversation_yields (u i : Int) : (c.openConversation u i).Yields :=
  .check (.bind (Yields.read _ _) fun _ =>
    .bind (Yields.store (Database.getOrCreateDirect_yields _ _ _) busy_of_retryable) fun _ =>
      .pure _)

theorem getConversation_yields (u i : Int) : (getConversation u i).Yields :=
  .bind (Yields.read _ _) fun _ => .bind (requireParticipant_yields _ _) fun _ =>
    .bind (Yields.read _ _) fun _ => .pure _

theorem getMessages_yields (u i : Int) : (c.getMessages u i).Yields :=
  .bind (.lift _) fun _ => .bind (requireParticipant_yields _ _) fun _ =>
    .bind (Yields.read _ _) fun _ => .pure _

theorem sendMessage_yields (u i : Int) : (c.sendMessage u i).Yields := by
  refine .bind (.lift _) fun form => .bind (.lift _) fun _ =>
    .bind (requireParticipant_yields _ _) fun _ =>
    .bind (Yields.store (Database.sendMessage_yields _ _) busy_of_retryable) fun s => ?_
  cases s with
  | sent m row => exact .pure _
  | duplicate m => exact .check (.pure _)

theorem markAsRead_yields (u i : Int) : (c.markAsRead u i).Yields :=
  .bind (requireParticipant_yields _ _) fun _ =>
    .bind (Yields.store (Database.markAsRead_yields _ _ _) busy_of_retryable) fun _ => .pure _

theorem unreadCount_yields (u i : Int) : (unreadCount u i).Yields :=
  .bind (requireParticipant_yields _ _) fun _ =>
    .bind (Yields.store (.read _) busy_of_retryable) fun _ => .pure _

-- ---------------------------------------------------------------------------
-- Routes
-- ---------------------------------------------------------------------------

theorem servePublic_yields (route : Route) : (c.servePublic route).Yields := by
  cases route <;> simp only [servePublic]
  case health => exact .pure _
  case createAccount => exact c.createAccount_yields
  case login => exact c.login_yields
  all_goals exact .throw _

theorem serveUser_yields (u : Int) (verb : Verb) (route : Route) :
    (c.serveUser u verb route).Yields := by
  cases route <;> simp only [serveUser]
  case logout => exact logout_yields u
  case searchUsers => exact c.searchUsers_yields
  case user id => exact .bind (.lift _) fun i => getUser_yields u i
  case inbox => exact c.listInbox_yields u
  case conversation id =>
    refine .bind (.lift _) fun i => ?_
    cases verb with
    | get => exact getConversation_yields u i
    | post => exact c.openConversation_yields u i
  case messages id =>
    refine .bind (.lift _) fun i => ?_
    cases verb with
    | get => exact c.getMessages_yields u i
    | post => exact c.sendMessage_yields u i
  case readMarker id => exact .bind (.lift _) fun i => c.markAsRead_yields u i
  case unreadCount id => exact .bind (.lift _) fun i => unreadCount_yields u i
  all_goals exact .throw _

theorem serve_yields (route : Route) : (c.serve route).Yields := by
  simp only [serve]
  split
  · exact c.servePublic_yields route
  · exact .bind (.lift _) fun u => c.serveUser_yields u _ route
  · exact .throw _
  · split <;> exact .throw _

theorem page_alone (n : Int) : c.alone.page n = c.page n := by
  rw [page, request_alone, page]

theorem serve_alone (route : Route) : c.alone.serve route = c.serve route := by
  have hauthenticate : c.alone.authenticate = c.authenticate := rfl
  have hpublic : c.alone.servePublic route = c.servePublic route := rfl
  have huser (u : Int) (verb : Verb) : c.alone.serveUser u verb route = c.serveUser u verb route := by
    cases route <;> simp only [serveUser, listInbox, getMessages, page_alone]
    all_goals rfl
  simp only [serve, request_alone, hauthenticate, hpublic, huser]

theorem answer_busy (h : c.answer.1.isBusy = true) : c.answer.2 = c.db := by
  rcases answer_cases c with ⟨hdb, -⟩ | ⟨route, r, db', -, -, hserve, -, hstatus, -⟩
  · exact hdb
  · have hbusy : c.answer.1.status = 503 := by simpa [Reply.isBusy] using h
    have := status_serve hserve
    omega

/-- Without the held transaction the reply is the same and the database becomes the same, unless the
reply is to try again. -/
theorem answer_alone : c.answer.1.isBusy = true ∨
    c.alone.answer = (c.answer.1, c.answer.2.alone) := by
  by_cases hoptions : c.request.method = "OPTIONS"
  · exact .inr (by simp [answer, hoptions])
  cases hroute : Route.of? c.request.target with
  | none => exact .inr (by simp [answer, hoptions, hroute])
  | some route =>
    rcases c.serve_yields route c.db with ⟨r, db', h, hr⟩ | h
    · refine .inl ?_
      simp only [answer, hoptions, hroute, h, ↓reduceIte]
      split <;> exact hr
    · refine .inr ?_
      simp only [answer, request_alone, db_alone, hoptions, hroute, serve_alone, h, ↓reduceIte]
      cases c.serve route c.db with
      | ok r db' => rfl
      | error r db' => rfl

end Call
end Parley.Http
