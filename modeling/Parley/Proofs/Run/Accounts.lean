import Parley.Proofs.Password
import Parley.Proofs.Run.Sessions

/-!
# Accounts that stay open

Whoever has registered can log in from then on (`registered_can_log_in`): users are never changed, and
a password is verified against its own hash, whatever the password and the salt are.
-/

namespace Parley

-- ---------------------------------------------------------------------------
-- Tokens as they are sent
-- ---------------------------------------------------------------------------

theorem Draws.tokenText_borne (d : Draws) : ∃ r : Http.Request, r.Bears d.tokenText := by
  have hletters : letters.all Http.isFieldChar = true := by decide
  have hletter (i : Fin 62) : Http.isFieldChar (letters.getD i.val 'A') = true := by
    rw [List.getD_eq_getElem?_getD]
    cases h : letters[i.val]? with
    | none => decide
    | some c => exact List.all_eq_true.mp hletters c (List.mem_of_getElem? h)
  have htoken : d.tokenText.toList.all Http.isFieldChar = true := by
    rw [tokenText, String.toList_ofList, List.all_map]
    exact List.all_eq_true.mpr fun i _ => hletter i
  refine ⟨⟨"GET", "/", [("authorization", "Bearer " ++ d.tokenText)], []⟩, rfl, ?_, ?_⟩
  · rw [← Http.all_isFieldChar_iff, String.toList_append, List.all_append, htoken]
    decide
  · intro hempty
    have := congrArg (fun s : String => s.toList.length) hempty
    simp [tokenText] at this

theorem Password.verify_self (salt : Salt) (password : String) :
    verify password (hash salt password) = .ok true := by
  rw [verify_hash, beq_self_eq_true]

-- ---------------------------------------------------------------------------
-- The two requests
-- ---------------------------------------------------------------------------

/-- Each session has a token that one of the exchanges gave to its user. -/
def Http.Issued (seen : List Http.Exchange) (t : Tables) : Prop :=
  ∀ x ∈ t.sessions.rows, ∃ y ∈ seen, y.grants? = some (x.token, x.userId)

namespace Http.Call

variable {c : Call} {seen : List Exchange}

theorem answer_registers (hasks : c.request.asks? = some (.post, .createAccount))
    (hform : Registration.read c.request = .ok form) (hok : c.answer.1.status = 200) :
    ∃ user ∈ c.answer.2.committed.users.rows, c.answer.1.int? "user_id" = some user.id ∧
      user.username = form.username ∧
      user.passwordHash = Password.hash c.draws.salt form.password := by
  obtain ⟨r, hserves, hserve⟩ := answer_public hasks rfl (by omega)
  obtain ⟨form', user, hform', hcreate, rfl⟩ := createAccount_ok hserve
  cases hform.symm.trans hform'
  obtain ⟨-, rfl, hdb⟩ := Database.createAccount_ok hcreate
  refine ⟨_, ?_, Reply.int?_of_content (hserves.content rfl), rfl, rfl⟩
  rw [hdb]
  exact List.mem_append_right _ (List.mem_singleton_self _)

theorem login_succeeds (hopen : c.db.isOpen = true) (hunlocked : c.db.isLocked = false)
    (ht : c.db.committed.Integrity) (huser : user ∈ c.db.committed.users.rows)
    (hform : Credentials.read c.request = .ok ⟨user.username, password⟩)
    (hverify : Password.verify password user.passwordHash = .ok true)
    (hfresh : ∀ session ∈ c.db.committed.sessions.rows, session.token ≠ c.draws.tokenText) :
    ∃ db', c.login c.db = .ok (sessionReply c.draws.tokenText user.id user.username) db' := by
  have hread : Handler.read refuseLogin (·.userByName user.username) c.db = .ok user c.db :=
    Handler.read_ok.mpr ⟨hopen, found_ok.mpr (find?_of_nodup ht.usernames huser), rfl⟩
  obtain ⟨db', hcreate⟩ : ∃ db', c.db.transact
      (.change (·.createSession user.id c.draws.tokenText c.now)) = .ok () db' := by
    have hhas := Tables.hasUser_iff.mpr ⟨user, huser, rfl⟩
    exact ⟨_, Database.transact_change_ok.mpr
      ⟨hopen, hunlocked, _, Tables.createSession_ok.mpr ⟨hfresh, hhas, rfl⟩, rfl, rfl⟩⟩
  refine ⟨db', Attempt.bind_lift_ok.mpr ⟨_, hform, Attempt.bind_ok.mpr ⟨user, c.db, hread, ?_⟩⟩⟩
  simp only [hverify]
  exact Attempt.bind_ok.mpr ⟨(), _, Handler.store_ok.mpr hcreate, rfl⟩

theorem answer_logs_in (hasks : c.request.asks? = some (.post, .login))
    (hlogin : c.login c.db = .ok (sessionReply token u name) db') :
    c.answer.1.status = 200 ∧ c.answer.1.content = (sessionReply token u name).content := by
  have hserve : c.serve .login c.db = .ok (sessionReply token u name) db' := by
    simp [serve, Request.asks?_iff.mp hasks, Route.isProtected, servePublic, hlogin]
  rw [answer_served hasks hserve]
  exact ⟨rfl, rfl⟩

theorem answer_issued (ht : c.db.committed.Integrity) (h : Issued seen c.db.committed) :
    Issued (seen ++ [c.exchange]) c.answer.2.committed := by
  have hold (x : Session) (hx : x ∈ c.db.committed.sessions.rows) :
      ∃ y ∈ seen ++ [c.exchange], y.grants? = some (x.token, x.userId) := by
    obtain ⟨y, hy, hgrant⟩ := h x hx
    exact ⟨y, List.mem_append_left _ hy, hgrant⟩
  intro x hx
  cases answer_turns ht with
  | granted hgrant _ _ hsessions =>
    rw [hsessions, Table.rows_add, List.mem_append, List.mem_singleton] at hx
    rcases hx with hx | rfl
    · exact hold x hx
    · exact ⟨_, List.mem_append_right _ (List.mem_singleton_self _), hgrant⟩
  | ended _ _ _ hsessions =>
    rw [hsessions] at hx
    exact hold x (Table.mem_rows_remove.mp hx).1
  | kept _ _ hsessions => exact hold x (hsessions ▸ hx)

end Http.Call

-- ---------------------------------------------------------------------------
-- Runs
-- ---------------------------------------------------------------------------

namespace System

open Http (Request Call Registration Credentials)

theorem issued_run (clock : Instant) {steps : List Step}
    (hsteps : ∀ st ∈ steps, st.action.isClient = true) :
    ((start clock).run steps).2.Serving (Http.Issued ((start clock).traffic steps)) :=
  traffic_keeps_start clock hsteps (by rintro _ ⟨⟩) fun _ _ _ ht h => Call.answer_issued ht h

theorem user_stays (clock : Instant) (before between : List Step)
    (hu : u ∈ ((start clock).run before).2.db.committed.users.rows) :
    u ∈ ((start clock).run (before ++ between)).2.db.committed.users.rows := by
  have hconsistent : ((start clock).run before).2.db.Consistent fun _ => True :=
    consistent_run (consistent_start clock) fun _ _ _ _ _ => trivial
  rw [run_append]
  exact (run_reaches hconsistent between).grows.users.subset hu

/-- Whoever was answered 200 to a request for an account can log in with its name and password at any
later point of a session of clients. The answer is for the same user, and its token, which requests
can carry, is taken to be that user's. -/
theorem registered_can_log_in (clock : Instant) (before between steps : List Step)
    (c : Call) (hdb : c.db = ((start clock).run before).2.db)
    (hsteps : steps = before ++ ⟨some c.now, .request c.request c.draws⟩ :: between)
    (hclients : ∀ st ∈ steps, st.action.isClient = true)
    (hasks : c.request.asks? = some (.post, .createAccount))
    (hform : Registration.read c.request = .ok form) (hok : c.answer.1.status = 200)
    (hid : c.answer.1.int? "user_id" = some i)
    (c' : Call) (hdb' : c'.db = ((start clock).run steps).2.db)
    (hasks' : c'.request.asks? = some (.post, .login))
    (hform' : Credentials.read c'.request = .ok ⟨form.username, form.password⟩)
    (hfresh : ∀ x ∈ (start clock).traffic steps, ∀ u, x.grants? ≠ some (c'.draws.tokenText, u)) :
    c'.answer.1.status = 200 ∧ c'.answer.1.int? "user_id" = some i ∧
    c'.answer.1.str? "username" = some form.username ∧
    ∃ token, c'.answer.1.str? "token" = some token ∧ (∃ r : Request, r.Bears token) ∧
      ∀ later : Call, later.db = c'.answer.2 → later.request.Bears token →
        later.authenticate = .ok i := by
  obtain ⟨user, huser, huserid, hname, hhash⟩ := Call.answer_registers hasks hform hok
  obtain rfl := Option.some.inj (huserid.symm.trans hid)
  obtain ⟨hopen, hheld, ht, hissued⟩ := issued_run clock hclients
  rw [← hdb'] at hopen hheld ht hissued
  have hstored : user ∈ c'.db.committed.users.rows := by
    rw [hdb', hsteps, List.append_cons]
    refine user_stays clock _ between ?_
    rw [run_append]
    show user ∈ (Call.answer ⟨c.request, c.now, c.draws, _⟩).2.committed.users.rows
    rwa [← hdb]
  have hunlocked : c'.db.isLocked = false := by simp [Database.isLocked, hheld]
  obtain ⟨db', hlogin⟩ := Call.login_succeeds hopen hunlocked ht hstored (hname ▸ hform')
    (hhash ▸ Password.verify_self _ _) fun x hx htoken => by
      obtain ⟨y, hy, hgrant⟩ := hissued x hx
      exact hfresh y hy _ (htoken ▸ hgrant)
  obtain ⟨hstatus, hcontent⟩ := Call.answer_logs_in hasks' hlogin
  have hgrant : c'.exchange.grants? = some (c'.draws.tokenText, user.id) :=
    Http.Exchange.grants?_of_session (.inr hasks') hstatus hcontent
  refine ⟨hstatus, Http.Reply.int?_of_content hcontent, ?_, _,
    Http.Reply.str?_of_content hcontent, c'.draws.tokenText_borne, fun later hlater hbears => ?_⟩
  · rw [← hname]
    exact Http.Reply.str?_of_content hcontent
  · have hopen' : later.db.isOpen = true := by
      rw [hlater, Call.answer_isOpen]
      exact hopen
    rw [Call.authenticate_bears hopen' hbears, hlater, Call.userIdByToken_answer ht]
    exact .inl hgrant

/-- The first user logs out after another has registered, and logs in again with a password that holds
a zero character. -/
theorem first_user_logs_in_again :
    let register : Call := ⟨requestFor 0 "POST" "/api/account/create"
      "[\"ada\", \"ada@example.org\", \"p\\u0000w\"]", atSecond 1, drawsFor 0, .empty⟩
    let between : List Step :=
      [⟨none, .request (requestFor 1 "POST" "/api/account/create"
          "[\"bob\", \"bob@example.org\", \"pw\"]") (drawsFor 1)⟩,
        ⟨none, .request (requestFor 0 "POST" "/api/account/logout" "") (drawsFor 2)⟩]
    let steps := [] ++ ⟨some register.now, .request register.request register.draws⟩ :: between
    let login : Call := ⟨requestFor 0 "POST" "/api/account/login" "[\"ada\", \"p\\u0000w\"]",
      atSecond 2, drawsFor 3, ((start .epoch).run steps).2.db⟩
    login.answer.1.status = 200 ∧ login.answer.1.int? "user_id" = some 1 ∧
      login.answer.1.str? "username" = some "ada" := by
  intro register between steps login
  have hform : Registration.read register.request = .ok ⟨"ada", "ada@example.org", "p\u0000w"⟩ :=
    toOption_some.mp (by decide +kernel)
  have hform' : Credentials.read login.request = .ok ⟨"ada", "p\u0000w"⟩ :=
    toOption_some.mp (by decide +kernel)
  have hgiven : ∀ x ∈ (start .epoch).traffic steps,
      x.grants?.map Prod.fst ≠ some (drawsFor 3).tokenText := by decide +kernel
  obtain ⟨hstatus, hid, hname, -⟩ := registered_can_log_in .epoch [] between steps register rfl rfl
    (by decide +kernel) (by decide +kernel) hform (by decide +kernel) (i := 1) (by decide +kernel)
    login rfl (by decide +kernel) hform'
    fun x hx u hgrant => hgiven x hx (congrArg (Option.map Prod.fst) hgrant)
  exact ⟨hstatus, hid, hname⟩

end System
end Parley
