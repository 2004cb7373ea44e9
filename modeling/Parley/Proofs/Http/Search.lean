import Parley.Proofs.Http.Answers
import Parley.Proofs.Json.Text
import Parley.Proofs.Text.Pattern

/-!
# Searches for users

The term of a search, the size of the pattern that is made of it, and what a search with too long a
pattern is answered.
-/

namespace Parley

theorem Text.trim_of_no_blank {cs : List Char} (h : ∀ c ∈ cs, isBlank c = false) :
    trim (String.ofList cs) = String.ofList cs := by
  have hkeep {cs : List Char} (h : ∀ c ∈ cs, isBlank c = false) : cs.dropWhile isBlank = cs := by
    cases cs with
    | nil => rfl
    | cons c rest => exact List.dropWhile_cons_of_neg (by simp [h c List.mem_cons_self])
  rw [trim, String.toList_ofList, hkeep h, hkeep fun c hc => h c (List.mem_reverse.mp hc),
    List.reverse_reverse]

namespace Pattern

theorem utf8ByteSize_cons (c : Char) (cs : List Char) :
    (String.ofList (c :: cs)).utf8ByteSize = c.utf8Size + (String.ofList cs).utf8ByteSize := by
  rw [← List.singleton_append, String.ofList_append, String.utf8ByteSize_append,
    ← String.singleton_eq_ofList, String.utf8ByteSize_singleton]

theorem utf8ByteSize_escape (s : List Char) : (String.ofList (escape s)).utf8ByteSize =
    (String.ofList s).utf8ByteSize + s.countP isSpecial := by
  induction s with
  | nil => rfl
  | cons c rest ih =>
    rw [escape_cons, utf8ByteSize_cons]
    by_cases hc : isSpecial c = true
    · have hescape : escapeChar.utf8Size = 1 := rfl
      rw [if_pos hc, List.countP_cons_of_pos hc, List.cons_append,
        List.singleton_append, utf8ByteSize_cons, utf8ByteSize_cons, ih, hescape]
      omega
    · rw [if_neg hc, List.countP_cons_of_neg hc,
        List.singleton_append, utf8ByteSize_cons, ih]
      omega

/-- A pattern is as long as its term, with each special character counted twice, and two signs. -/
theorem utf8ByteSize_containing (term : String) : (containing term).utf8ByteSize =
    term.utf8ByteSize + term.toList.countP isSpecial + 2 := by
  have hpercent : '%'.utf8Size = 1 := rfl
  have hend : (String.ofList ['%']).utf8ByteSize = 1 := rfl
  rw [containing, utf8ByteSize_cons, String.ofList_append, String.utf8ByteSize_append,
    utf8ByteSize_escape, String.ofList_toList, hpercent, hend]
  omega

end Pattern

namespace Http

theorem UserSearch.read_quoted {r : Request} (hjson : r.hasJsonBody = true)
    (hsize : r.body.length ≤ Request.maxBody)
    (hbody : r.body = Json.code '[' :: (Json.quoted cs ++ [Json.code ']']))
    (h : Json.IsPlain cs) : read r = .ok ⟨String.ofList cs⟩ := by
  have hform : form.read r.body = .ok [some (String.ofList cs)] := by
    rw [hbody]
    exact Json.Form.read_quoted rfl h
  simp only [read, Request.readAs, hjson, Bool.not_true, Bool.false_eq_true, if_false,
    if_neg (Nat.not_lt.mpr hsize), hform, ok_mapError, ok_bind]
  rfl

namespace Call

def term? (c : Call) : Option String :=
  match c.request.asks?, c.authenticate, UserSearch.read c.request with
  | some (_, .searchUsers), .ok _, .ok form => some (Text.trim form.username)
  | _, _, _ => none

variable {c : Call}

theorem term?_iff : c.term? = some term ↔ ∃ verb u form,
    c.request.asks? = some (verb, .searchUsers) ∧ c.authenticate = .ok u ∧
      UserSearch.read c.request = .ok form ∧ term = Text.trim form.username := by
  constructor
  · intro h
    unfold term? at h
    split at h
    · next hasks hu hform => exact ⟨_, _, _, hasks, hu, hform, (Option.some.inj h).symm⟩
    · cases h
  · rintro ⟨verb, u, form, hasks, hu, hform, rfl⟩
    simp only [term?, hasks, hu, hform]

theorem searchUsers_overlong (hopen : c.db.isOpen = true) (husers : c.db.committed.users.rows ≠ [])
    (hform : UserSearch.read c.request = .ok form)
    (hlong : Pattern.maxBytes < (Pattern.containing (Text.trim form.username)).utf8ByteSize) :
    c.searchUsers c.db = .error (.ofStoreError (.failure .patternTooComplex)) c.db := by
  have hterm : (Text.trim form.username).isEmpty = false := by
    rw [Bool.eq_false_iff]
    intro hempty
    rw [String.isEmpty_iff.mp hempty] at hlong
    exact absurd hlong (by decide)
  have hlimit : ¬ (searchLimit = 0 ∨ c.db.committed.users.rows.isEmpty = true) := by
    simp [searchLimit, husers]
  have hsearch : c.db.committed.searchUsers (Text.trim form.username) searchLimit =
      .error (.failure .patternTooComplex) := by
    simp only [Tables.searchUsers, if_neg hlimit, if_pos hlong]
  refine Attempt.bind_error.mpr (.inr ⟨form, c.db, Attempt.lift_ok.mpr ⟨hform, rfl⟩, ?_⟩)
  simp only [hterm, Bool.false_eq_true, if_false]
  exact Attempt.bind_error.mpr (.inl (Handler.read_error.mpr
    ⟨_, Database.query_error.mpr (.inr ⟨hopen, hsearch⟩), rfl, rfl⟩))

end Call
end Http
end Parley
