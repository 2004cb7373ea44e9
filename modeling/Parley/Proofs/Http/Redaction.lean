import Parley.Proofs.Http.Effect
import Parley.Proofs.Store.Redaction

/-!
# Password hashes and replies

The same request, made to two databases that differ in password hashes alone, is answered alike, and
leaves databases that again differ in hashes alone, if a login comes to the same verdict on the
password in both. There is one exception: where the hash of the user who logs in cannot be read, the
reply says why, and two hashes may be unreadable for reasons of which the texts differ
(`hashes_seen_in_faults`). Such a text may hold the hash itself (`unreadable_hash_seen`).
-/

namespace Parley.Http
namespace Call

variable (c : Call)

def on (db : Database) : Call := { c with db }

/-- What verifying the password comes to, if the request is a login of a user who is there. -/
def verdict? : Option (Except Password.Fault Bool) := do
  let form ← (Credentials.read c.request).toOption
  let user ← (c.db.query (·.userByName form.username)).toOption
  return Password.verify form.password user.passwordHash

def unverified (fault : Password.Fault) : Reply :=
  .refusal 500 s!"Password verification error: {fault.message}" false

section
variable (db : Database)

@[simp] theorem request_on : (c.on db).request = c.request := rfl
@[simp] theorem now_on : (c.on db).now = c.now := rfl
@[simp] theorem draws_on : (c.on db).draws = c.draws := rfl
@[simp] theorem db_on : (c.on db).db = db := rfl

end

theorem authenticate_blind {db' : Database} (h : db'.redact = c.db.redact) :
    (c.on db').authenticate = c.authenticate := by
  have hquery (token : String) := Database.query_blind h (Tables.userIdByToken_blind token)
  simp only [authenticate, request_on, db_on, hquery]

theorem page_on (db : Database) (n : Int) : (c.on db).page n = c.page n := by
  rw [page, request_on, page]

theorem serveUser_on (db : Database) (u : Int) (verb : Verb) (route : Route) :
    (c.on db).serveUser u verb route = c.serveUser u verb route := by
  cases route <;> simp only [serveUser, listInbox, getMessages, page_on]
  all_goals rfl

end Call

-- ---------------------------------------------------------------------------
-- Work of the store
-- ---------------------------------------------------------------------------

namespace Handler

/-- On databases that differ in password hashes alone it comes to the same but for these. -/
abbrev Blind (x : Handler α) : Prop := Attempt.SeesOnly Database.redact x

variable {refuse : StoreError → Reply}

theorem Blind.store {x : Database → Database.Result α} (hx : Database.Blind x) :
    (store refuse x).Blind := by
  intro db db' h
  unfold Handler.store
  rcases (hx db db' h).cases with ⟨e, t, t', hr, hr', ht⟩ | ⟨a, a', t, t', hr, hr', ha, ht⟩
  · rw [hr, hr']
    exact .error _ ht
  · rw [hr, hr']
    exact .ok ha ht

theorem Blind.read {q : Tables → Except StoreError α} (hq : Tables.Blind q) :
    (read refuse q).Blind :=
  .store (.read hq)

theorem read_alike {f : α → β} {q : Tables → Except StoreError α} {db db' : Database}
    (h : db'.redact = db.redact) (hq : Alike f (q db.committed) (q db'.committed)) :
    AlikeIn f Database.redact (read refuse q db) (read refuse q db') := by
  simp only [Handler.read, Handler.store, Database.read]
  rcases (Database.query_alike h hq).cases with ⟨e, hr, hr'⟩ | ⟨a, a', hr, hr', ha⟩
  · rw [hr, hr']
    exact .error _ h
  · rw [hr, hr']
    exact .ok ha h

end Handler

namespace Call

open Handler (Blind)

-- ---------------------------------------------------------------------------
-- Handlers
-- ---------------------------------------------------------------------------

variable (c : Call) {db db' : Database}

theorem requireParticipant_blind (i u : Int) : (requireParticipant i u).Blind :=
  .bind (Blind.read fun _ => rfl) fun _ => .ite (.throw _) (.pure _)

theorem createAccount_blind : c.createAccount.Blind :=
  .bind (.lift _) fun _ => .check (.check (.check
    (.bind (Blind.store (Database.createAccount_blind _ _ _)) fun _ => .pure _)))

theorem verdict?_of_read (hform : Credentials.read c.request = .ok form)
    (huser : Handler.read refuseLogin (·.userByName form.username) c.db = .ok user db) :
    c.verdict? = some (Password.verify form.password user.passwordHash) := by
  obtain ⟨hopen, huser, -⟩ := Handler.read_ok.mp huser
  have hquery : c.db.query (·.userByName form.username) = .ok user :=
    Database.query_ok.mpr ⟨hopen, huser⟩
  simp [verdict?, hform, hquery, Except.toOption]

theorem login_blind (h : db'.redact = c.db.redact) (hverdict : (c.on db').verdict? = c.verdict?) :
    AlikeIn id Database.redact (c.login c.db) (c.login db') := by
  refine .bind_lift h fun form hform => ?_
  have huser := Tables.userByName_alike (Database.redact_eq h).1 form.username
  refine (Handler.read_alike (q := (·.userByName form.username)) h huser).bind
    fun user user' t t' hr hr' heq ht => ?_
  rw [verdict?_of_read _ hform hr, verdict?_of_read (c.on db') hform hr'] at hverdict
  have hid : user'.id = user.id := by simpa using congrArg User.id heq
  have hname : user'.username = user.username := by simpa using congrArg User.username heq
  rw [Option.some.inj hverdict, hid, hname]
  rcases Password.verify form.password user.passwordHash with fault | (_ | _)
  · exact .error _ ht
  · exact .error _ ht
  · exact Attempt.SeesOnly.bind (Blind.store (.transact (.change
      (Tables.createSession_blind _ _ _)))) (fun _ => .pure _) t t' ht

theorem login_unverified (hverdict : c.verdict? = some (.error fault)) :
    c.login c.db = .error (unverified fault) c.db := by
  simp only [verdict?, bind, Option.bind_eq_some_iff, toOption_some, pure,
    Option.some.injEq] at hverdict
  obtain ⟨form, hform, user, huser, hfault⟩ := hverdict
  obtain ⟨hopen, huser⟩ := Database.query_ok.mp huser
  refine Attempt.bind_error.mpr (.inr ⟨form, c.db, Attempt.lift_ok.mpr ⟨hform, rfl⟩, ?_⟩)
  refine Attempt.bind_error.mpr (.inr ⟨user, c.db, Handler.read_ok.mpr ⟨hopen, huser, rfl⟩, ?_⟩)
  rw [hfault]
  rfl

theorem logout_blind (u : Int) : (logout u).Blind :=
  .bind (Blind.store (.transact (.change (Tables.deleteSessions_blind u)))) fun _ => .pure _

theorem getUser_blind (u i : Int) : (getUser u i).Blind := by
  refine .check fun db db' h => ?_
  have huser := Tables.userById_alike (Database.redact_eq h).1 u
  refine (Handler.read_alike (q := (·.userById u)) h huser).bind
    fun user user' t t' _ _ heq ht => .ok ?_ ht
  have hjson : user'.redact.toJson = user.redact.toJson := by rw [heq]
  exact congrArg (Reply.json 200) hjson

theorem searchUsers_blind : c.searchUsers.Blind :=
  .bind (.lift _) fun _ => .check (.bind (Blind.read (Tables.searchUsers_blind _ _)) fun _ => .pure _)

theorem listInbox_blind (u : Int) : (c.listInbox u).Blind :=
  .bind (.lift _) fun page =>
    .bind (Blind.read ((Tables.listInbox_blind u page).map Except.ok)) fun _ => .pure _

theorem openConversation_blind (u i : Int) : (c.openConversation u i).Blind := by
  refine .check fun db db' h => ?_
  have huser := Tables.userById_alike (Database.redact_eq h).1 i
  refine (Handler.read_alike (q := (·.userById i)) h huser).bind fun _ _ t t' _ _ _ ht => ?_
  exact Attempt.SeesOnly.bind (Blind.store (Database.getOrCreateDirect_blind _ _ _)) (fun _ => .pure _)
    t t' ht

theorem getConversation_blind (u i : Int) : (getConversation u i).Blind :=
  .bind (Blind.read (Tables.conversationById_blind i)) fun _ =>
    .bind (requireParticipant_blind _ _) fun _ => .bind (Blind.read fun _ => rfl) fun _ => .pure _

theorem getMessages_blind (u i : Int) : (c.getMessages u i).Blind :=
  .bind (.lift _) fun _ => .bind (requireParticipant_blind _ _) fun _ =>
    .bind (Blind.read fun _ => rfl) fun _ => .pure _

theorem sendMessage_blind (u i : Int) : (c.sendMessage u i).Blind := by
  refine .bind (.lift _) fun _ => .bind (.lift _) fun _ =>
    .bind (requireParticipant_blind _ _) fun _ =>
    .bind (Blind.store (Database.sendMessage_blind _ _)) fun s => ?_
  cases s with
  | sent m row => exact .pure _
  | duplicate m => exact .check (.pure _)

theorem markAsRead_blind (u i : Int) : (c.markAsRead u i).Blind :=
  .bind (requireParticipant_blind _ _) fun _ =>
    .bind (Blind.store (Database.markAsRead_blind _ _ _)) fun _ => .pure _

theorem unreadCount_blind (u i : Int) : (unreadCount u i).Blind :=
  .bind (requireParticipant_blind _ _) fun _ => .bind (Blind.read fun _ => rfl) fun _ => .pure _

-- ---------------------------------------------------------------------------
-- Routes
-- ---------------------------------------------------------------------------

theorem servePublic_blind (h : db'.redact = c.db.redact)
    (hlogin : route = .login → (c.on db').verdict? = c.verdict?) :
    AlikeIn id Database.redact (c.servePublic route c.db) (c.servePublic route db') := by
  cases route <;> simp only [servePublic]
  case health => exact .ok rfl h
  case createAccount => exact c.createAccount_blind _ _ h
  case login => exact c.login_blind h (hlogin rfl)
  all_goals exact .error _ h

theorem serveUser_blind (u : Int) (verb : Verb) (route : Route) :
    (c.serveUser u verb route).Blind := by
  cases route <;> simp only [serveUser]
  case logout => exact logout_blind u
  case searchUsers => exact c.searchUsers_blind
  case user id => exact .bind (.lift _) fun i => getUser_blind u i
  case inbox => exact c.listInbox_blind u
  case conversation id =>
    refine .bind (.lift _) fun i => ?_
    cases verb with
    | get => exact getConversation_blind u i
    | post => exact c.openConversation_blind u i
  case messages id =>
    refine .bind (.lift _) fun i => ?_
    cases verb with
    | get => exact c.getMessages_blind u i
    | post => exact c.sendMessage_blind u i
  case readMarker id => exact .bind (.lift _) fun i => c.markAsRead_blind u i
  case unreadCount id => exact .bind (.lift _) fun i => unreadCount_blind u i
  all_goals exact .throw _

theorem serve_blind (h : db'.redact = c.db.redact) (hlogin : c.request.asks? = some (.post, .login) →
      (c.on db').verdict? = c.verdict?) (hroute : Route.of? c.request.target = some route) :
    AlikeIn id Database.redact (c.serve route c.db) ((c.on db').serve route db') := by
  have hpublic : (c.on db').servePublic route = c.servePublic route := rfl
  simp only [serve, c.authenticate_blind h, request_on, hpublic, serveUser_on]
  cases hverb : route.verb? c.request.method with
  | some verb =>
    cases route.isProtected with
    | true => exact Attempt.SeesOnly.bind (.lift _) (fun u => c.serveUser_blind u verb route) _ _ h
    | false =>
      refine c.servePublic_blind h fun hroute' => hlogin ?_
      subst hroute'
      cases verb with
      | get => exact absurd (Route.hasGet_of_get hverb) (by decide)
      | post => exact Request.asks?_iff.mpr ⟨hroute, hverb⟩
  | none =>
    cases route.isProtected with
    | false => exact .error _ h
    | true => cases c.authenticate <;> exact .error _ h

-- ---------------------------------------------------------------------------
-- Answers
-- ---------------------------------------------------------------------------

theorem answer_blind (h : db'.redact = c.db.redact)
    (hverdict : c.request.asks? = some (.post, .login) → (c.on db').verdict? = c.verdict?) :
    (c.on db').answer.1 = c.answer.1 ∧ (c.on db').answer.2.redact = c.answer.2.redact := by
  have hpreflight : (c.on db').preflight = c.preflight := rfl
  by_cases hoptions : c.request.method = "OPTIONS"
  · simp [answer, hoptions, hpreflight, h]
  cases hroute : Route.of? c.request.target with
  | none => simp [answer, hoptions, hroute, h]
  | some route =>
    rcases (c.serve_blind h hverdict hroute).cases with
      ⟨r, t, t', hr, hr', ht⟩ | ⟨r, r', t, t', hr, hr', hsame, ht⟩
    · simp [answer, hoptions, hroute, hr, hr', ht]
    · simp [answer, hoptions, hroute, hr, hr', show r' = r from hsame, ht]

variable {c}

theorem answer_unverified (hasks : c.request.asks? = some (.post, .login))
    (hverdict : c.verdict? = some (.error fault)) :
    c.answer = ((unverified fault).withHeaders originHeaders, c.db) := by
  obtain ⟨-, hverb⟩ := Request.asks?_iff.mp hasks
  have hserve : c.serve .login c.db = .error (unverified fault) c.db := by
    rw [← c.login_unverified hverdict]
    simp [serve, hverb, Route.isProtected, servePublic]
  exact answer_declined hasks hserve

theorem unverified_inj {fault fault' : Password.Fault} :
    (unverified fault').withHeaders originHeaders = (unverified fault).withHeaders originHeaders ↔
      fault'.message = fault.message := by
  simp [unverified, Reply.withHeaders, Reply.refusal, Reply.json, toString]

theorem verdict_eq_or_fault {v v' : Option (Except Password.Fault Bool)}
    (hkind : v'.map Except.toOption = v.map Except.toOption) : v' = v ∨
      ∃ fault fault', v = some (.error fault) ∧ v' = some (.error fault') := by
  rcases v with _ | ⟨fault | b⟩ <;> rcases v' with _ | ⟨fault' | b'⟩ <;>
    simp [Except.toOption] at hkind ⊢
  exact hkind

/-- Databases that differ in password hashes alone still do so after they answer the same request,
if a login finds the same in both: that the password is right, that it is not, or that the hash
cannot be read. The answers are the same, unless a login finds two hashes that cannot be read for
reasons of different texts. -/
theorem hashes_seen_in_faults (c : Call) (db' : Database) (h : db'.redact = c.db.redact)
    (hkind : c.request.asks? = some (.post, .login) →
      (c.on db').verdict?.map Except.toOption = c.verdict?.map Except.toOption) :
    (c.on db').answer.2.redact = c.answer.2.redact ∧
    ((c.on db').answer.1 = c.answer.1 ↔ ∀ fault fault',
      c.request.asks? = some (.post, .login) → c.verdict? = some (.error fault) →
      (c.on db').verdict? = some (.error fault') → fault'.message = fault.message) := by
  by_cases hfaults : ∃ fault fault', c.request.asks? = some (.post, .login) ∧
      c.verdict? = some (.error fault) ∧ (c.on db').verdict? = some (.error fault')
  · obtain ⟨fault, fault', hasks, hfault, hfault'⟩ := hfaults
    rw [answer_unverified hasks hfault, answer_unverified (c := c.on db') hasks hfault',
      unverified_inj]
    refine ⟨h, fun heq _ _ _ hx hx' => ?_, fun hall => hall _ _ hasks hfault hfault'⟩
    obtain rfl : fault = _ := by simpa [hfault] using hx
    obtain rfl : fault' = _ := by simpa [hfault'] using hx'
    exact heq
  · obtain ⟨hreply, hdb⟩ := c.answer_blind h fun hasks =>
      (verdict_eq_or_fault (hkind hasks)).resolve_right fun ⟨fault, fault', hx, hx'⟩ =>
        hfaults ⟨fault, fault', hasks, hx, hx'⟩
    exact ⟨hdb, fun _ fault fault' hasks hx hx' => absurd ⟨fault, fault', hasks, hx, hx'⟩ hfaults,
      fun _ => hreply⟩

def loginOn (draws : Draws) (hash : String) : Call :=
  let made := (System.start .epoch).run
    [⟨none, .store (.createAccount ⟨"ada", "ada@example.org", hash, "customer"⟩ "t1")⟩]
  ⟨⟨"POST", "/api/account/login", [("content-type", "application/json")],
      bytesOf "[\"ada\", \"pw\"]"⟩, .epoch, draws, made.2.db⟩

/-- Two hashes that cannot be read are read in the answers. -/
theorem unreadable_hash_seen :
    let draws : Draws := ⟨.replicate 32 0, .replicate 16 0, .replicate 16 0⟩
    let c := loginOn draws "h"
    let db' := (loginOn draws "k").db
    db'.redact = c.db.redact ∧ c.request.asks? = some (.post, .login) ∧
    (c.on db').verdict?.map Except.toOption = c.verdict?.map Except.toOption ∧
    c.answer.1.str? "error" = some "Password verification error: Invalid hash: h" ∧
    (c.on db').answer.1.str? "error" = some "Password verification error: Invalid hash: k" := by
  decide +kernel

/-- Two others are not told apart. -/
theorem unknown_version_seen :
    let draws : Draws := ⟨.replicate 32 0, .replicate 16 0, .replicate 16 0⟩
    let c := loginOn draws "$2c$04$h"
    let db' := (loginOn draws "$2c$05$k").db
    db' ≠ c.db ∧ (c.on db').answer.1 = c.answer.1 := by
  intro draws c db'
  have hx : c.verdict? = some (.error (.badVersion "2c")) := by decide +kernel
  have hx' : (c.on db').verdict? = some (.error (.badVersion "2c")) := by decide +kernel
  refine ⟨by decide +kernel, (hashes_seen_in_faults c db' (by decide +kernel) fun _ => ?_).2.mpr ?_⟩
  · rw [hx, hx']
  · intro fault fault' _ hfault hfault'
    obtain rfl : fault = _ := by simpa [hx] using hfault.symm
    obtain rfl : fault' = _ := by simpa [hx'] using hfault'.symm
    rfl

end Call
end Parley.Http
