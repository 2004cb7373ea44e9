import Parley.Proofs.Http.Answers
import Parley.Proofs.Run.Step
import Parley.Proofs.Text.Ascii

/-!
# Who is let in

A protected route is open to requests that bear the token of a session (`Call.Admitted`). Whoever is
let in is served as the user of that one session, and whoever is not learns nothing but that
(`gate_decides`). All else that a request may get wrong comes after.
-/

namespace Parley
namespace Http

-- ---------------------------------------------------------------------------
-- What a request bears
-- ---------------------------------------------------------------------------

def IsFieldByte (b : UInt8) : Prop := 0x20 ≤ b.toNat ∧ b.toNat < 0x7F ∨ b.toNat = 0x09

theorem isFieldChar_iff (c : Char) :
    isFieldChar c = true ↔ ∀ b ∈ String.utf8EncodeChar c, IsFieldByte b := by
  have htab : c = '\t' ↔ c.toNat = 9 := ⟨fun h => h ▸ rfl, fun h => Char.toNat_inj.mp h⟩
  have hfield : isFieldChar c = true ↔ 0x20 ≤ c.toNat ∧ c.toNat < 0x7F ∨ c.toNat = 9 := by
    simp [isFieldChar, htab]
  rw [hfield]
  by_cases hascii : c.toNat < 128
  · have hbyte : String.utf8EncodeChar c = [asciiByte c] := if_pos (Nat.le_of_lt_succ hascii)
    simp [hbyte, IsFieldByte, toNat_asciiByte hascii]
  · refine ⟨fun h => by omega, fun h => ?_⟩
    obtain ⟨b, hb, hlarge⟩ := exists_large_byte hascii
    have := h b hb
    unfold IsFieldByte at this
    omega

theorem all_isFieldChar_iff (value : String) :
    value.toList.all isFieldChar = true ↔ ∀ b ∈ value.toUTF8.data.toList, IsFieldByte b := by
  rw [bytes_eq_flatMap]
  simp only [List.all_eq_true, isFieldChar_iff, List.mem_flatMap]
  exact ⟨fun h b ⟨c, hc, hb⟩ => h c hc b hb, fun h c hc b hb => h b ⟨c, hc, hb⟩⟩

/-- The first `Authorization` field holds `Bearer ` and a token, and is text. -/
structure Request.Bears (r : Request) (token : String) : Prop where
  field : r.header? "authorization" = some ("Bearer " ++ token)
  plain : ∀ b ∈ ("Bearer " ++ token).toUTF8.data.toList, IsFieldByte b
  nonempty : token ≠ ""

theorem bearer_iff {value token : String} : value = "Bearer " ++ token ↔
    bearerScheme.isPrefixOf value.toList = true ∧
      String.ofList (value.toList.drop bearerScheme.length) = token := by
  have hvalue : value = "Bearer " ++ token ↔ value.toList = bearerScheme ++ token.toList := by
    rw [← String.toList_inj, String.toList_append]
    rfl
  rw [hvalue, List.isPrefixOf_iff_prefix]
  constructor
  · intro h
    rw [h, List.drop_left, String.ofList_toList]
    exact ⟨List.prefix_append _ _, rfl⟩
  · rintro ⟨⟨rest, hrest⟩, rfl⟩
    rw [← hrest, List.drop_left, String.toList_ofList]

theorem Request.bears_iff {r : Request} : r.Bears token ↔ r.bearerToken? = some token := by
  simp only [bearerToken?, textHeader?, Option.bind_eq_some_iff, Option.filter_eq_some_iff,
    all_isFieldChar_iff, Option.ite_none_right_eq_some, Option.some.injEq]
  constructor
  · intro h
    obtain ⟨hstarts, hrest⟩ := bearer_iff.mp (rfl : "Bearer " ++ token = _)
    refine ⟨_, ⟨h.field, h.plain⟩, ⟨hstarts, fun hnil => h.nonempty ?_⟩, hrest⟩
    rw [← hrest, hnil]
  · rintro ⟨value, ⟨hfield, hplain⟩, ⟨hstarts, hne⟩, hrest⟩
    obtain rfl := bearer_iff.mpr ⟨hstarts, hrest⟩
    refine ⟨hfield, hplain, fun hempty => hne ?_⟩
    exact String.ofList_inj.mp (hrest.trans hempty)

theorem Request.Bears.unique {r : Request} (h : r.Bears token) (h' : r.Bears token') :
    token = token' :=
  Option.some.inj ((bears_iff.mp h).symm.trans (bears_iff.mp h'))

instance (r : Request) (token : String) : Decidable (r.Bears token) :=
  decidable_of_iff _ Request.bears_iff.symm

namespace Call

variable {c : Call}

def Admitted (c : Call) : Prop :=
  ∃ session ∈ c.db.committed.sessions.rows, c.request.Bears session.token

instance (c : Call) : Decidable c.Admitted := inferInstanceAs (Decidable (∃ _ ∈ _, _))

def serveAs (c : Call) (u : Int) (route : Route) : Handler Reply :=
  match route.verb? c.request.method with
  | some verb => c.serveUser u verb route
  | none => throw ((Reply.empty 405).withHeaders [("allow", route.allowed)])

-- ---------------------------------------------------------------------------
-- Who is not let in
-- ---------------------------------------------------------------------------

theorem authenticate_not_admitted (hopen : c.db.isOpen = true) (h : ¬ c.Admitted) :
    c.authenticate = .error (.empty 401) := by
  cases htoken : c.request.bearerToken? with
  | none => simp [authenticate, htoken]
  | some token =>
    have hnone : c.db.committed.userIdByToken token = .error (.notFound .session) := by
      refine found_error.mpr ⟨?_, rfl⟩
      simp only [Option.map_eq_none_iff, List.find?_eq_none, beq_iff_eq]
      rintro session hs rfl
      exact h ⟨session, hs, Request.bears_iff.mpr htoken⟩
    simp [authenticate, htoken, Database.query, hopen, hnone]

def turnedAway (route : Route) (method : String) : Reply :=
  match route.verb? method with
  | some _ => .empty 401
  | none => (Reply.empty 401).withHeaders [("allow", route.allowed)]

theorem serve_not_admitted (hopen : c.db.isOpen = true) (hprotected : route.isProtected = true)
    (h : ¬ c.Admitted) :
    c.serve route c.db = .error (turnedAway route c.request.method) c.db := by
  simp only [serve, turnedAway, hprotected, authenticate_not_admitted hopen h]
  cases route.verb? c.request.method <;> rfl

-- ---------------------------------------------------------------------------
-- Who is let in
-- ---------------------------------------------------------------------------

theorem authenticate_admitted (ht : c.db.committed.Integrity) (hopen : c.db.isOpen = true)
    (hs : session ∈ c.db.committed.sessions.rows) (hbears : c.request.Bears session.token) :
    c.authenticate = .ok session.userId := by
  refine authenticate_ok.mpr ⟨hopen, _, Request.bears_iff.mp hbears, found_ok.mpr ?_⟩
  rw [find?_of_nodup ht.tokens hs]
  rfl

theorem serve_admitted (hprotected : route.isProtected = true) (hu : c.authenticate = .ok u) :
    c.serve route = c.serveAs u route := by
  simp only [serve, serveAs, hprotected, hu]
  cases route.verb? c.request.method <;> rfl

-- ---------------------------------------------------------------------------
-- Answers
-- ---------------------------------------------------------------------------

theorem answer_not_admitted (hmethod : c.request.method ≠ "OPTIONS")
    (hroute : Route.of? c.request.target = some route) (hprotected : route.isProtected = true)
    (hopen : c.db.isOpen = true) (h : ¬ c.Admitted) :
    c.answer = ((turnedAway route c.request.method).withHeaders originHeaders, c.db) := by
  -- Without content it is its own header fields.
  have hhead (method : String) : (turnedAway route method).headOnly = turnedAway route method := by
    unfold turnedAway
    split <;> rfl
  simp [answer, hmethod, hroute, serve_not_admitted hopen hprotected h, hhead]

theorem answer_known (hroute : Route.of? c.request.target = some route)
    (hprotected : route.isProtected = true) (hu : c.authenticate = .ok u) :
    c.answer.1.status ≠ 401 := by
  intro hstatus
  rcases answer_refused (c := c) (by omega) with hnone | ⟨route', r, hroute', hrefused, hr⟩
  · omega
  obtain rfl := Option.some.inj (hroute.symm.trans hroute')
  rw [hstatus] at hr
  cases hrefused with
  | handler h => exact h.status_ne hr.symm
  | stranger h => exact h hprotected u hu
  | overlong _ _ _ _ _ h => omega
  | hidden _ _ _ _ _ _ _ h => omega

end Call
end Http

namespace System

open Http (Request Route Call bytesOf)

/-- Who is let in to a protected route, in a session whose database is open. A request that bears
the token of a session bears that of no other, is answered as the user of that session asks, and
never 401. Any other request is answered 401 and nothing else, whatever is stored, and changes
nothing. -/
theorem gate_decides (clock : Instant) (steps : List Step) (time : Option Instant) (r : Request)
    (draws : Draws) (hopen : ((start clock).run steps).2.db.isOpen = true)
    (hmethod : r.method ≠ "OPTIONS") (hroute : Route.of? r.target = some route)
    (hprotected : route.isProtected = true) :
    let s := ((start clock).run steps).2
    let c : Call := ⟨r, time.getD s.clock, draws, s.db⟩
    s.step ⟨time, .request r draws⟩ = (.reply c.answer.1, ⟨c.answer.2, c.now⟩) ∧
    (c.Admitted → c.answer.1.status ≠ 401 ∧ ∃ session ∈ s.db.committed.sessions.rows,
      (∀ other ∈ s.db.committed.sessions.rows, r.Bears other.token ↔ other = session) ∧
      c.serve route = c.serveAs session.userId route) ∧
    (¬ c.Admitted → c.answer.1.status = 401 ∧ c.answer.1.content = .none ∧ c.answer.2 = s.db ∧
      ∀ c' : Call, c'.request = r → c'.db.isOpen = true → ¬ c'.Admitted →
        c'.answer.1 = c.answer.1) := by
  intro s c
  refine ⟨step_request s time r draws, ?_, ?_⟩
  · rintro ⟨session, hs, hbears⟩
    have ht : s.db.committed.Integrity := integrity_run clock steps
    have hu := Call.authenticate_admitted (c := c) ht hopen hs hbears
    refine ⟨Call.answer_known hroute hprotected hu, session, hs, fun other hother => ?_,
      Call.serve_admitted hprotected hu⟩
    refine ⟨fun h => List.inj_on_of_nodup_map ht.tokens hother hs ?_, fun h => h ▸ hbears⟩
    exact Option.some.inj
      ((Request.bears_iff.mp h).symm.trans (Request.bears_iff.mp hbears))
  · intro hout
    have hanswer (c' : Call) (hc : c'.request = r) (hopen' : c'.db.isOpen = true)
        (hout' : ¬ c'.Admitted) :
        c'.answer = ((Call.turnedAway route r.method).withHeaders Call.originHeaders, c'.db) := by
      subst hc
      exact Call.answer_not_admitted hmethod hroute hprotected hopen' hout'
    rw [hanswer c rfl hopen hout]
    refine ⟨?_, ?_, rfl, fun c' hc hopen' hout' => by rw [hanswer c' hc hopen' hout']⟩
    · unfold Call.turnedAway
      split <;> rfl
    · unfold Call.turnedAway
      split <;> rfl

/-- What the route does not have, and cannot read, is asked for by a user and by somebody else. -/
theorem gate_before_method :
    let steps : List Step :=
      [⟨none, .store (.createAccount ⟨"ada", "ada@example.org", "h", "customer"⟩ "t1")⟩]
    let asked (token : String) : Request :=
      ⟨"DELETE", "/api/conversations/x/read", [("authorization", "Bearer " ++ token)], bytesOf "["⟩
    let draws : Draws := ⟨.replicate 32 0, .replicate 16 0, .replicate 16 0⟩
    let s := ((start .epoch).run steps).2
    let call (token : String) : Call := ⟨asked token, s.clock, draws, s.db⟩
    (call "t1").Admitted ∧ (call "t1").answer.1.status ≠ 401 ∧
    ¬ (call "t2").Admitted ∧ (call "t2").answer.1.status = 401 := by
  intro steps asked draws s call
  have hroute : Route.of? "/api/conversations/x/read" = some (.readMarker "x") := by decide +kernel
  have hgate (token : String) := (gate_decides .epoch steps none (asked token) draws
    (by decide +kernel) (show "DELETE" ≠ "OPTIONS" by decide) hroute rfl).2
  have hin : (call "t1").Admitted := by decide +kernel
  have hout : ¬ (call "t2").Admitted := by decide +kernel
  exact ⟨hin, ((hgate "t1").1 hin).1, hout, ((hgate "t2").2 hout).1⟩

end System
end Parley
