import Parley.Proofs.Base64
import Parley.Proofs.Run.Acknowledged

/-!
# The content of messages

Content is accepted exactly if it is the padded base64 text of some bytes, whoever sends it
(`content_is_base64`). What else is asked of a message is only looked at then, and only the key can
still keep a participant's message from being stored.
-/

namespace Parley

open Base64 (Alphabet encodePadded)

theorem Base64.encodePadded_eq_nil {bs : List UInt8} :
    encodePadded .standard bs = [] ↔ bs = [] := by
  constructor
  · intro h
    have hnil : Base64.encode .standard bs = [] := (List.append_eq_nil_iff.mp h).1
    have hlength := Base64.length_encode .standard bs
    rw [hnil, List.length_nil] at hlength
    exact List.eq_nil_of_length_eq_zero (by omega)
  · rintro rfl
    rfl

-- ---------------------------------------------------------------------------
-- The check
-- ---------------------------------------------------------------------------

namespace Http

/-- The text of some bytes, of one or more: in the alphabet of RFC 4648, padded, without anything
else in it. -/
def IsContent (s : String) : Prop :=
  ∃ bs ≠ [], s = String.ofList (encodePadded .standard bs)

theorem isContent_iff {s : String} :
    IsContent s ↔ s ≠ "" ∧ Base64.isEncoded .standard s.toList = true := by
  rw [Base64.isEncoded_iff _ Base64.padding_not_mem_standard]
  constructor
  · rintro ⟨bs, hbs, rfl⟩
    refine ⟨fun hempty => hbs (Base64.encodePadded_eq_nil.mp ?_), bs, String.toList_ofList⟩
    rw [← String.toList_ofList (l := encodePadded .standard bs), hempty]
    rfl
  · rintro ⟨hne, bs, htext⟩
    have hs : s = String.ofList (encodePadded .standard bs) := by
      rw [← htext, String.ofList_toList]
    refine ⟨bs, ?_, hs⟩
    rintro rfl
    exact hne hs

def contentRefusal (s : String) : Reply :=
  .refusal 400 (if s = "" then "Message content cannot be empty"
    else "Message content must be base64 encoded") false

namespace Call

theorem requireContent_of (h : IsContent s) : requireContent s = .ok () := by
  obtain ⟨hne, hencoded⟩ := isContent_iff.mp h
  simp [requireContent, hne, hencoded]

theorem requireContent_of_not (h : ¬ IsContent s) :
    requireContent s = .error (contentRefusal s) := by
  by_cases hempty : s = ""
  · simp [requireContent, contentRefusal, hempty]
  · have hencoded : Base64.isEncoded .standard s.toList = false := by
      rw [Bool.eq_false_iff]
      exact fun hencoded => h (isContent_iff.mpr ⟨hempty, hencoded⟩)
    simp only [requireContent, contentRefusal, hencoded, hempty, String.isEmpty_iff, if_false]
    rfl

theorem messageKey_not_blank (c : Call) (given : Option String) :
    Text.allBlank (c.messageKey given) = false := by
  unfold messageKey
  split
  · next key h => simpa using (Option.filter_eq_some_iff.mp h).2
  · -- The random key has a hyphen.
    rw [Text.allBlank, List.all_eq_false]
    exact ⟨'-', by simp [Draws.keyText], by decide⟩

-- ---------------------------------------------------------------------------
-- The handler
-- ---------------------------------------------------------------------------

variable {c : Call} {form : Posting} {u n : Int}

section
variable (hform : Posting.read c.request = .ok form)
include hform

theorem sendMessage_declined (h : ¬ IsContent form.content) :
    c.sendMessage u n c.db = .error (contentRefusal form.content) c.db := by
  simp only [sendMessage, Attempt.bind_apply, Attempt.lift_apply, hform, requireContent_of_not h]

variable (hopen : c.db.isOpen = true) (hcontent : IsContent form.content)
include hopen hcontent

theorem sendMessage_stranger (hout : c.db.committed.isParticipant n u = false) :
    c.sendMessage u n c.db =
      .error (.refusal 403 "You are not a participant in this conversation" false) c.db := by
  simp [sendMessage, Attempt.bind_apply, Attempt.lift_apply, hform, requireContent_of hcontent,
    requireParticipant_apply hopen, hout]

variable (hmember : c.db.committed.isParticipant n u = true)
include hmember

theorem sendMessage_sent (hsend : c.db.sendMessage c.now
      ⟨n, u, form.content, c.messageKey form.key⟩ = .ok (.sent m row) db') :
    c.sendMessage u n c.db =
      .ok (sentReply 201 m (c.messageKey form.key) (some row.updatedAt) false) db' := by
  simp [sendMessage, Attempt.bind_apply, Attempt.lift_apply, hform, requireContent_of hcontent,
    requireParticipant_apply hopen, hmember, Handler.store, hsend, Attempt.pure_apply]

/-- A key that is taken is only the user's own if the message is, and in this conversation. -/
theorem sendMessage_duplicate (hsend : c.db.sendMessage c.now
      ⟨n, u, form.content, c.messageKey form.key⟩ = .ok (.duplicate m) c.db) :
    c.sendMessage u n c.db = if m.conversationId = n ∧ m.senderId = u then
        .ok (sentReply 200 m (c.messageKey form.key) none true) c.db
      else .error (.refusal 409 "client_message_id is already in use" false) c.db := by
  simp only [sendMessage, Attempt.bind_apply, Attempt.lift_apply, hform, requireContent_of hcontent,
    requireParticipant_apply hopen, hmember, Handler.store, hsend, if_true]
  by_cases hown : m.conversationId = n ∧ m.senderId = u
  · simp [hown, Attempt.pure_apply]
  · have hother : m.conversationId ≠ n ∨ m.senderId ≠ u := not_and_or.mp hown
    simp [hown, hother, Attempt.bind_apply, Attempt.throw_apply]

end

-- ---------------------------------------------------------------------------
-- The answer
-- ---------------------------------------------------------------------------

/-- What a participant is answered whose content is accepted: only the key matters. -/
structure Accepts (c : Call) (u n : Int) (form : Posting) : Prop where
  fresh : (∀ m ∈ c.db.committed.messages.rows, m.key ≠ c.messageKey form.key) →
    c.answer.1.status = 201 ∧ ∃ m, c.answer.2.committed.messages.rows =
      c.db.committed.messages.rows ++ [m] ∧ m.content = form.content ∧
      m.key = c.messageKey form.key ∧ m.conversationId = n ∧ m.senderId = u
  taken : ∀ m ∈ c.db.committed.messages.rows, m.key = c.messageKey form.key →
    c.answer.1.status = (if m.conversationId = n ∧ m.senderId = u then 200 else 409) ∧
      c.answer.2 = c.db

variable {segment : String}

theorem serve_sends (hasks : c.request.asks? = some (.post, .messages segment))
    (hu : c.authenticate = .ok u) (hn : pathId segment = .ok n) :
    c.serve (.messages segment) c.db = c.sendMessage u n c.db := by
  rw [serve_asked hasks rfl hu]
  simp only [serveUser, Attempt.bind_apply, Attempt.lift_apply, hn]

theorem Accepts.not_400 (h : c.Accepts u n form) : c.answer.1.status ≠ 400 := by
  by_cases htaken : ∃ m ∈ c.db.committed.messages.rows, m.key = c.messageKey form.key
  · obtain ⟨m, hm, hkey⟩ := htaken
    rw [(h.taken m hm hkey).1]
    split <;> decide
  · rw [(h.fresh fun m hm hkey => htaken ⟨m, hm, hkey⟩).1]
    decide

theorem answer_accepts (ht : c.db.committed.Integrity) (hlock : c.db.isLocked = false)
    (hasks : c.request.asks? = some (.post, .messages segment)) (hu : c.authenticate = .ok u)
    (hn : pathId segment = .ok n) (hform : Posting.read c.request = .ok form)
    (hcontent : IsContent form.content) (hmember : c.db.committed.isParticipant n u = true) :
    c.Accepts u n form := by
  have hopen : c.db.isOpen = true := (authenticate_ok.mp hu).1
  have hserve := serve_sends hasks hu hn
  have hblank := c.messageKey_not_blank form.key
  have hne : form.content.isEmpty = false := by simpa using (isContent_iff.mp hcontent).1
  -- A participant is a user, of a conversation that is there, so only the key is left to decide.
  obtain ⟨p, hp, rfl, rfl⟩ := Tables.isParticipant_iff.mp hmember
  have hc : c.db.committed.hasConversation p.conversationId = true :=
    Tables.hasConversation_iff.mpr (ht.memberOf p hp)
  constructor
  · intro hfree
    have hsender : c.db.committed.hasUser p.userId = true :=
      Tables.hasUser_iff.mpr (ht.memberUser p hp)
    obtain ⟨sentAt, row, hsend⟩ := Database.sendMessage_fresh hopen hlock ht c.now
      ⟨p.conversationId, p.userId, form.content, c.messageKey form.key⟩ hfree hc hsender hblank hne
    rw [answer_served hasks (hserve.trans (sendMessage_sent hform hopen hcontent hmember hsend))]
    exact ⟨rfl, c.db.committed.messageRow _ sentAt, rfl, rfl, rfl, rfl, rfl⟩
  · intro m hm hkey
    have hsend : c.db.sendMessage c.now ⟨p.conversationId, p.userId, form.content,
        c.messageKey form.key⟩ = .ok (.duplicate m) c.db :=
      Database.sendMessage_taken hopen hlock ht hm hc hkey.symm hblank hne
    have hsent := sendMessage_duplicate hform hopen hcontent hmember hsend
    by_cases hown : m.conversationId = p.conversationId ∧ m.senderId = p.userId
    · rw [if_pos hown] at hsent ⊢
      rw [answer_served hasks (hserve.trans hsent)]
      exact ⟨rfl, rfl⟩
    · rw [if_neg hown] at hsent ⊢
      rw [answer_declined hasks (hserve.trans hsent)]
      exact ⟨rfl, rfl⟩

end Call
end Http

namespace System

open Http (Call Posting IsContent)

/-- In every session, with the write lock free, a form with content is sent to a conversation. It is
answered 400 exactly if the content is not the padded base64 text of some bytes, of one or more;
whether the user takes part in the conversation makes no difference, and nothing is stored. Otherwise
other users are refused with 403, and a participant is answered by the key, a new one with a message
that has the content. -/
theorem content_is_base64 (clock : Instant) (steps : List Step) (s : System)
    (hs : s = ((start clock).run steps).2) (hlock : s.db.isLocked = false) (c : Call)
    (hdb : c.db = s.db) (segment : String) (u n : Int) (form : Posting)
    (hasks : c.request.asks? = some (.post, .messages segment)) (hu : c.authenticate = .ok u)
    (hn : Call.pathId segment = .ok n) (hform : Posting.read c.request = .ok form) :
    s.step ⟨some c.now, .request c.request c.draws⟩ = (.reply c.answer.1, ⟨c.answer.2, c.now⟩) ∧
    (c.answer.1.status = 400 ↔ ¬ IsContent form.content) ∧
    (¬ IsContent form.content → c.answer.2 = s.db ∧
      c.answer.1.content = (Http.contentRefusal form.content).content) ∧
    (IsContent form.content → s.db.committed.isParticipant n u = false →
      c.answer.2 = s.db ∧ c.answer.1.status = 403) ∧
    (IsContent form.content → s.db.committed.isParticipant n u = true → c.Accepts u n form) := by
  have ht : c.db.committed.Integrity := hdb ▸ hs ▸ integrity_run clock steps
  have hopen : c.db.isOpen = true := (Call.authenticate_ok.mp hu).1
  have hstep : s.step ⟨some c.now, .request c.request c.draws⟩ =
      (.reply c.answer.1, ⟨c.answer.2, c.now⟩) := by
    rw [step_request, ← hdb]
    rfl
  have hserve := Call.serve_sends hasks hu hn
  have hdeclined (h : ¬ IsContent form.content) := Call.answer_declined hasks
    (hserve.trans (Call.sendMessage_declined hform h))
  have hstranger (h : IsContent form.content)
      (hout : c.db.committed.isParticipant n u = false) := Call.answer_declined hasks
    (hserve.trans (Call.sendMessage_stranger hform hopen h hout))
  have haccepts (h : IsContent form.content) (hmember : c.db.committed.isParticipant n u = true) :=
    Call.answer_accepts ht (hdb ▸ hlock) hasks hu hn hform h hmember
  rw [← hdb]
  refine ⟨hstep, ⟨fun hbad h => ?_, fun h => ?_⟩, fun h => ?_, fun h hout => ?_, haccepts⟩
  · cases hmember : c.db.committed.isParticipant n u with
    | true => exact (haccepts h hmember).not_400 hbad
    | false =>
      rw [hstranger h hmember] at hbad
      cases hbad
  · rw [hdeclined h]
    rfl
  · rw [hdeclined h]
    exact ⟨rfl, rfl⟩
  · rw [hstranger h hout]
    exact ⟨rfl, rfl⟩

/-- After the greeting, content without its padding, or with bits in the last character that belong to
no byte, is answered 400, also from a user who does not take part. -/
theorem content_after_greeting :
    let s := ((start .epoch).run greeting).2
    let call (target body : String) : Call :=
      ⟨⟨"POST", target, [("content-type", "application/json"), ("authorization", "Bearer t1")],
        Http.bytesOf body⟩, atSecond 5, drawsFor 0, s.db⟩
    let here := "/api/conversations/1/messages"
    let elsewhere := "/api/conversations/2/messages"
    (call here "[\"aGk\", \"k2\"]").answer.1.status = 400 ∧
    (call here "[\"aGl=\", \"k2\"]").answer.2 = s.db ∧
    (call elsewhere "[\"aGl=\", \"k2\"]").answer.1.status = 400 ∧
    (call elsewhere "[\"aGk=\", \"k2\"]").answer.1.status = 403 ∧
    (call here "[\"aGk=\", \"k2\"]").answer.1.status = 201 := by
  intro s call here elsewhere
  have hbearer : Http.Request.bearerToken? ⟨"POST", "",
      [("content-type", "application/json"), ("authorization", "Bearer t1")], []⟩ = some "t1" := by
    decide +kernel
  have hknown : s.db.committed.userIdByToken "t1" = .ok 1 := by decide +kernel
  have hall (target body segment : String) (n : Int) (form : Posting)
      (hroute : Http.Route.of? target = some (.messages segment))
      (hn : (Call.pathId segment).toOption = some n)
      (hform : (Posting.read (call target body).request).toOption = some form) :=
    content_is_base64 .epoch greeting s rfl (by decide +kernel) (call target body) rfl segment 1 n
      form (Http.Request.asks?_iff.mpr ⟨hroute, rfl⟩)
      (Call.authenticate_ok.mpr ⟨rfl, "t1", hbearer, hknown⟩) (toOption_some.mp hn)
      (toOption_some.mp hform)
  have hcontent : IsContent "aGk=" := ⟨[104, 105], by decide, by decide +kernel⟩
  have hcut : ¬ IsContent "aGk" := fun h => absurd (Http.isContent_iff.mp h).2 (by decide +kernel)
  have hbits : ¬ IsContent "aGl=" := fun h => absurd (Http.isContent_iff.mp h).2 (by decide +kernel)
  have hhere (body : String) := hall here body "1" 1
  have helsewhere (body : String) := hall elsewhere body "2" 2
  refine ⟨(hhere _ ⟨"aGk", some "k2"⟩ ?_ ?_ ?_).2.1.mpr hcut,
    ((hhere _ ⟨"aGl=", some "k2"⟩ ?_ ?_ ?_).2.2.1 hbits).1,
    (helsewhere _ ⟨"aGl=", some "k2"⟩ ?_ ?_ ?_).2.1.mpr hbits,
    ((helsewhere _ ⟨"aGk=", some "k2"⟩ ?_ ?_ ?_).2.2.2.1 hcontent ?_).2,
    (((hhere _ ⟨"aGk=", some "k2"⟩ ?_ ?_ ?_).2.2.2.2 hcontent ?_).fresh ?_).1⟩
  all_goals decide +kernel

end System
end Parley
