import Parley.Proofs.Http.Search
import Parley.Proofs.Password
import Parley.Proofs.Run.Own

/-!
# Failures of the server

What clients are answered with status 500. Their requests store no password hash that cannot be read,
so in a session of clients there is one such answer: to a search for a term whose pattern is too long
(`fails_iff_overlong`).
-/

namespace Parley

open Http (Route)

namespace Tables

variable {t t' : Tables}

def Hashed (t : Tables) : Prop :=
  ∀ user ∈ t.users.rows, ∃ salt password, user.passwordHash = Password.hash salt password

theorem OwnWrite.users (h : t.OwnWrite u route t') : t'.users = t.users := by
  cases h <;> rfl

end Tables

namespace Http.Call

variable {c : Call}

theorem servePublic_hashed (h : c.db.committed.Hashed)
    (hserve : c.servePublic route c.db = .ok r db') : db'.committed.Hashed := by
  cases route <;> simp only [servePublic, Attempt.throw_ok] at hserve
  case health =>
    obtain ⟨-, rfl⟩ := Attempt.pure_ok.mp hserve
    exact h
  case createAccount =>
    obtain ⟨form, u, -, hcreate, -⟩ := createAccount_ok hserve
    obtain ⟨-, -, rfl⟩ := Database.createAccount_ok hcreate
    intro user huser
    rcases List.mem_append.mp huser with huser | huser
    · exact h user huser
    · obtain rfl := List.mem_singleton.mp huser
      exact ⟨_, _, rfl⟩
  case login =>
    obtain ⟨form, u, -, -, -, hcreate, -⟩ := login_ok hserve
    obtain ⟨-, -, w, hw, -, rfl⟩ := Database.transact_change_ok.mp hcreate
    obtain ⟨-, -, rfl⟩ := Tables.createSession_ok.mp hw
    exact h

theorem answer_hashed (c : Call) (ht : c.db.committed.Integrity) (h : c.db.committed.Hashed) :
    c.answer.2.committed.Hashed := by
  rcases answer_serves c with ⟨hdb, -⟩ | ⟨verb, route, r, -, ⟨-, hserve⟩ | ⟨-, u, -, hserve⟩⟩
  · rw [hdb]
    exact h
  · exact servePublic_hashed h hserve
  · rw [Tables.Hashed, (serveUser_own ht hserve).users]
    exact h

theorem users_ne_nil (ht : c.db.committed.Integrity) (hu : c.authenticate = .ok u) :
    c.db.committed.users.rows ≠ [] := by
  obtain ⟨-, token, -, hu⟩ := authenticate_ok.mp hu
  obtain ⟨session, hsession, -⟩ := Option.map_eq_some_iff.mp (found_ok.mp hu)
  obtain ⟨user, huser, -⟩ := ht.sessionUser session (List.mem_of_find?_eq_some hsession)
  exact List.ne_nil_of_mem huser

theorem fails_iff (hopen : c.db.isOpen = true) (ht : c.db.committed.Integrity)
    (hhashed : c.db.committed.Hashed) : c.answer.1.status = 500 ↔
      ∃ term, c.term? = some term ∧ Pattern.maxBytes < (Pattern.containing term).utf8ByteSize := by
  constructor
  · intro hfails
    rcases answer_refused (c := c) (by omega) with hstatus | ⟨route, r, hroute, hrefused, hstatus⟩
    · omega
    rw [hfails] at hstatus
    cases hrefused with
    | handler h =>
      rcases h.broken hstatus.symm with hclosed | ⟨user, huser, given, fault, hfault⟩
      · rw [hopen] at hclosed
        cases hclosed
      · obtain ⟨salt, password, hhash⟩ := hhashed user huser
        rw [hhash, Password.verify_hash] at hfault
        cases hfault
    | overlong hrouted hverb hu hform hlong =>
      subst hrouted
      have hasks := Request.asks?_iff.mpr ⟨hroute, hverb⟩
      exact ⟨_, term?_iff.mpr ⟨_, _, _, hasks, hu, hform, rfl⟩, hlong⟩
    | stranger _ h | hidden _ _ _ _ _ _ _ h => omega
  · rintro ⟨term, hterm, hlong⟩
    obtain ⟨verb, u, form, hasks, hu, hform, rfl⟩ := term?_iff.mp hterm
    have hserve := searchUsers_overlong hopen (users_ne_nil ht hu) hform hlong
    exact answer_error hasks ((serve_asked hasks rfl hu).trans hserve)

end Http.Call

namespace System

theorem Serving.fails_iff {s : System} (hs : s.Serving Tables.Hashed) (time : Option Instant)
    (r : Http.Request) (draws : Draws) :
    (∃ reply, (s.step ⟨time, .request r draws⟩).1 = .reply reply ∧ reply.status = 500) ↔
      ∃ term, Http.Call.term? ⟨r, time.getD s.clock, draws, s.db⟩ = some term ∧
        Pattern.maxBytes < (Pattern.containing term).utf8ByteSize := by
  let c : Http.Call := ⟨r, time.getD s.clock, draws, s.db⟩
  rw [← Http.Call.fails_iff (c := c) hs.isOpen hs.whole hs.keeps, step_request]
  constructor
  · rintro ⟨reply, hreply, hstatus⟩
    cases hreply
    exact hstatus
  · intro hstatus
    exact ⟨_, rfl, hstatus⟩

theorem hashed_run (clock : Instant) {steps : List Step}
    (hsteps : ∀ st ∈ steps, st.action.isClient = true) :
    ((start clock).run steps).2.Serving Tables.Hashed :=
  clients_keep clock hsteps (by rintro _ ⟨⟩) Http.Call.answer_hashed

/-- In every session of clients, a request is answered with status 500 exactly if a user searches for
a term whose pattern is longer than patterns may be. -/
theorem fails_iff_overlong (clock : Instant) (steps : List Step)
    (hsteps : ∀ st ∈ steps, st.action.isClient = true) (time : Option Instant) (r : Http.Request)
    (draws : Draws) :
    let s := ((start clock).run steps).2
    (∃ reply, (s.step ⟨time, .request r draws⟩).1 = .reply reply ∧ reply.status = 500) ↔
      ∃ term, Http.Call.term? ⟨r, time.getD s.clock, draws, s.db⟩ = some term ∧
        Pattern.maxBytes < (Pattern.containing term).utf8ByteSize :=
  (hashed_run clock hsteps).fails_iff time r draws

def percentSearch (r : Http.Request) (n : Nat) : Http.Request :=
  { r with body := Json.code '[' :: (Json.quoted (List.replicate n '%') ++ [Json.code ']']) }

theorem length_percentSearch (r : Http.Request) (n : Nat) :
    (percentSearch r n).body.length = n + 4 := by
  simp [percentSearch, Json.quoted]

theorem read_percentSearch {r : Http.Request} (hjson : r.hasJsonBody = true)
    (hn : n + 4 ≤ Http.Request.maxBody) :
    Http.UserSearch.read (percentSearch r n) = .ok ⟨String.ofList (List.replicate n '%')⟩ := by
  have hsize := (length_percentSearch r n).trans_le hn
  refine Http.UserSearch.read_quoted hjson hsize rfl fun c hc => ?_
  rw [List.eq_of_mem_replicate hc]
  decide

theorem trim_percent (n : Nat) : Text.trim (String.ofList (List.replicate n '%')) =
    String.ofList (List.replicate n '%') := by
  refine Text.trim_of_no_blank fun c hc => ?_
  rw [List.eq_of_mem_replicate hc]
  decide

theorem utf8ByteSize_percent (n : Nat) :
    (Pattern.containing (String.ofList (List.replicate n '%'))).utf8ByteSize = 2 * n + 2 := by
  have hascii : IsAscii (List.replicate n '%') := by
    intro c hc
    rw [List.eq_of_mem_replicate hc]
    decide
  rw [Pattern.utf8ByteSize_containing, hascii.utf8ByteSize, String.toList_ofList,
    List.countP_replicate, List.length_replicate, if_pos (by decide)]
  omega

theorem term?_percentSearch {c : Http.Call} {r : Http.Request} (hc : c.request = percentSearch r n)
    (hjson : r.hasJsonBody = true) (hn : n + 4 ≤ Http.Request.maxBody)
    (hasks : r.asks? = some (.post, .searchUsers)) (hu : c.authenticate = .ok u) :
    c.term? = some (String.ofList (List.replicate n '%')) := by
  have hread := read_percentSearch hjson hn
  rw [← hc] at hread
  have hasks : c.request.asks? = some (.post, .searchUsers) := by
    rw [hc]
    exact hasks
  exact Http.Call.term?_iff.mpr ⟨_, _, _, hasks, hu, hread, (trim_percent n).symm⟩

def oneUser : List Step := (firstMessage.take 1).map Visit.step

theorem oneUser_isClient : ∀ st ∈ oneUser, st.action.isClient = true := by decide +kernel

theorem oneUser_term? (hn : n + 4 ≤ Http.Request.maxBody) (now : Instant) (draws : Draws) :
    Http.Call.term? ⟨percentSearch (requestFor 0 "POST" "/api/users/search" "") n, now, draws,
      ((start .epoch).run oneUser).2.db⟩ = some (String.ofList (List.replicate n '%')) := by
  have htoken : (requestFor 0 "POST" "/api/users/search" "").bearerToken? =
      some (drawsFor 0).tokenText := by
    decide +kernel
  have huser : ((start .epoch).run oneUser).2.db.committed.userIdByToken (drawsFor 0).tokenText =
      .ok 1 := by
    decide +kernel
  have hopen := (hashed_run .epoch oneUser_isClient).isOpen
  -- From here on the database is any with these properties, so that nothing computes it again.
  generalize ((start .epoch).run oneUser).2.db = db at huser hopen ⊢
  refine term?_percentSearch rfl (by decide +kernel) hn (by decide +kernel) (u := 1) ?_
  exact Http.Call.authenticate_ok.mpr ⟨hopen, _, htoken, huser⟩

/-- A search for 25000 percent signs fails. -/
theorem percent_search_fails :
    let s := ((start .epoch).run oneUser).2
    let r := percentSearch (requestFor 0 "POST" "/api/users/search" "") 25000
    (∀ st ∈ oneUser, st.action.isClient = true) ∧ s.db.isOpen = true ∧ r.body.length = 25004 ∧
      ∃ reply, (s.step ⟨none, .request r (drawsFor 1)⟩).1 = .reply reply ∧ reply.status = 500 := by
  intro s r
  have hs : s.Serving Tables.Hashed := hashed_run .epoch oneUser_isClient
  have hlong : Pattern.maxBytes < 2 * 25000 + 2 := by decide
  rw [← utf8ByteSize_percent] at hlong
  exact ⟨oneUser_isClient, hs.isOpen, length_percentSearch _ 25000,
    (hs.fails_iff _ _ _).mpr ⟨_, oneUser_term? (by decide) _ _, hlong⟩⟩

/-- A search for one of them does not. -/
theorem short_search_succeeds :
    let s := ((start .epoch).run oneUser).2
    let r := percentSearch (requestFor 0 "POST" "/api/users/search" "") 1
    ¬ ∃ reply, (s.step ⟨none, .request r (drawsFor 1)⟩).1 = .reply reply ∧ reply.status = 500 := by
  intro s r hfails
  obtain ⟨term, hterm, hlong⟩ :=
    (fails_iff_overlong .epoch oneUser oneUser_isClient none r (drawsFor 1)).mp hfails
  obtain rfl := Option.some.inj (hterm.symm.trans (oneUser_term? (by decide) _ _))
  rw [utf8ByteSize_percent] at hlong
  exact absurd hlong (by decide)

end System
end Parley
