import Parley.Proofs.Http.Effect
import Parley.Proofs.Run.Atomic
import Parley.Proofs.Run.Inbox
import Parley.Proofs.Run.Requests

/-!
# What a user can write

`Tables.OwnWrite u route t t'`: all that a request of `u` to a protected route may do to the tables. It
takes away only sessions of `u`, and what it adds or rewrites is of `u`. In a session of clients it
follows that whoever has sent a message takes part in its conversation.
-/

namespace Parley

open Http (Route pathNumber?)

/-- What a request of the user `u` does to the tables, row by row. -/
inductive Tables.OwnWrite (u : Int) (t : Tables) : Route → Tables → Prop where
  | nothing : OwnWrite u t route t
  | loggedOut : OwnWrite u t .logout { t with sessions := t.sessions.remove (·.userId == u) }
  | opened {segment : String} : pathNumber? segment = some v → n.Joins t u v ∨ n.Joins t v u →
      OwnWrite u t (.conversation segment) (t.addConversation n)
  | sent {segment : String} {conversations : Table Conversation} :
      pathNumber? segment = some m.conversationId →
      t.isParticipant m.conversationId u = true → m.senderId = u → m.id = t.messages.nextId →
      c.id = m.conversationId →
      t.conversations.Replaces c { c with updatedAt := time } conversations →
      OwnWrite u t (.messages segment) { t with conversations, messages := t.messages.add m }
  | marked {segment : String} {participants : Table Participant} :
      pathNumber? segment = some p.conversationId →
      p.userId = u → t.participants.Replaces p { p with lastReadAt := time } participants →
      OwnWrite u t (.readMarker segment) { t with participants }

-- ---------------------------------------------------------------------------
-- One request
-- ---------------------------------------------------------------------------

namespace Operation.Effect

variable {t t' : Tables} {segment : String}

theorem own_opened (h : Effect now t (.getOrCreateDirect u v) r t')
    (hv : pathNumber? segment = some v) : t.OwnWrite u (.conversation segment) t' := by
  cases h with
  | opened hpair _ hjoins =>
    rcases Pair.of_ok hpair with ⟨hlow, hhigh⟩ | ⟨hlow, hhigh⟩ <;> rw [hlow, hhigh] at hjoins
    · exact .opened hv (.inl hjoins)
    · exact .opened hv (.inr hjoins)
  | found => exact .nothing

theorem own_sent (h : Effect now t (.sendMessage m) r t')
    (hc : pathNumber? segment = some m.conversationId)
    (hmember : t.isParticipant m.conversationId m.senderId = true) :
    t.OwnWrite m.senderId (.messages segment) t' := by
  cases h with
  | sent hid htime heq hreplaces => exact .sent hc hmember rfl rfl hid (heq ▸ hreplaces)
  | duplicate => exact .nothing

theorem own_marked (h : Effect now t (.markAsRead c u) r t')
    (hc : pathNumber? segment = some c) : t.OwnWrite u (.readMarker segment) t' := by
  cases h with
  | unmarked => exact .nothing
  | marked hid huser hreplaces => exact .marked (hid ▸ hc) huser hreplaces

end Operation.Effect

namespace Http.Call

variable {c : Call}

theorem serveUser_own (ht : c.db.committed.Integrity)
    (h : c.serveUser u verb route c.db = .ok r db') :
    c.db.committed.OwnWrite u route db'.committed := by
  have hquiet (hdb : db' = c.db) : c.db.committed.OwnWrite u route db'.committed := by
    rw [hdb]
    exact .nothing
  cases route <;> simp only [serveUser, Attempt.bind_lift_ok, Attempt.throw_ok] at h
  case logout =>
    obtain ⟨⟨n, hdelete⟩, -⟩ := logout_ok h
    obtain ⟨-, -, w, hw, -, rfl⟩ := Database.transact_change_ok.mp hdelete
    obtain rfl := Tables.deleteSessions_ok.mp hw
    exact .loggedOut
  case searchUsers => exact hquiet (searchUsers_ok h).1
  case user =>
    obtain ⟨_, -, h⟩ := h
    exact hquiet (getUser_ok h).2.1
  case inbox => exact hquiet (listInbox_ok h).1
  case conversation segment =>
    obtain ⟨v, hv, h⟩ := h
    cases verb with
    | get => exact hquiet (getConversation_ok h).1
    | post =>
      obtain ⟨-, result, hopen, -⟩ := openConversation_ok h
      have hrun : (Operation.getOrCreateDirect u v).run c.db c.now = .ok (.direct result) db' :=
        Database.map_ok.mpr ⟨_, hopen, rfl⟩
      exact (Operation.effect ht hrun).1.own_opened (pathNumber?_of_pathId hv)
  case messages segment =>
    obtain ⟨v, hv, h⟩ := h
    cases verb with
    | get => exact hquiet (getMessages_ok h).2.1
    | post =>
      obtain ⟨hmember, form, s, -, hsend, -⟩ := sendMessage_ok h
      have hrun : (Operation.sendMessage ⟨v, u, form.content, c.messageKey form.key⟩).run c.db c.now =
          .ok (.sending s) db' := Database.map_ok.mpr ⟨_, hsend, rfl⟩
      exact (Operation.effect ht hrun).1.own_sent (pathNumber?_of_pathId hv) hmember
  case readMarker segment =>
    obtain ⟨v, hv, h⟩ := h
    obtain ⟨-, hmark, -⟩ := markAsRead_ok h
    have hrun : (Operation.markAsRead v u).run c.db c.now = .ok .done db' :=
      Database.map_ok.mpr ⟨_, hmark, rfl⟩
    exact (Operation.effect ht hrun).1.own_marked (pathNumber?_of_pathId hv)
  case unreadCount =>
    obtain ⟨_, -, h⟩ := h
    exact hquiet (unreadCount_ok h).2.1

theorem servePublic_frame (h : c.servePublic route c.db = .ok r db') :
    db'.committed.conversations = c.db.committed.conversations ∧
      db'.committed.participants = c.db.committed.participants ∧
      db'.committed.messages = c.db.committed.messages := by
  cases route <;> simp only [servePublic, Attempt.throw_ok] at h
  case health =>
    obtain ⟨-, rfl⟩ := Attempt.pure_ok.mp h
    exact ⟨rfl, rfl, rfl⟩
  case createAccount =>
    obtain ⟨form, u, -, hcreate, -⟩ := createAccount_ok h
    obtain ⟨-, -, rfl⟩ := Database.createAccount_ok hcreate
    exact ⟨rfl, rfl, rfl⟩
  case login =>
    obtain ⟨form, u, -, -, -, hcreate, -⟩ := login_ok h
    obtain ⟨-, -, w, hw, -, rfl⟩ := Database.transact_change_ok.mp hcreate
    obtain ⟨-, -, rfl⟩ := Tables.createSession_ok.mp hw
    exact ⟨rfl, rfl, rfl⟩

theorem answer_own (ht : c.db.committed.Integrity) (htoken : c.request.bearerToken? = some token)
    (hu : c.db.committed.userIdByToken token = .ok u)
    (hroute : Route.of? c.request.target = some route) (hprotected : route.isProtected = true) :
    c.db.committed.OwnWrite u route c.answer.2.committed := by
  rcases answer_serves c with ⟨hdb, -⟩ | ⟨verb, route', r, hserves, hserved⟩
  · rw [hdb]
    exact .nothing
  obtain ⟨hroute', -⟩ := Request.asks?_iff.mp hserves.asks
  obtain rfl := Option.some.inj (hroute.symm.trans hroute')
  rcases hserved with ⟨hpublic, -⟩ | ⟨-, v, hv, hserve⟩
  · rw [hprotected] at hpublic
    cases hpublic
  · obtain ⟨-, token', htoken', hv⟩ := authenticate_ok.mp hv
    obtain rfl := Option.some.inj (htoken.symm.trans htoken')
    obtain rfl := Except.ok.inj (hu.symm.trans hv)
    exact serveUser_own ht hserve

end Http.Call

-- ---------------------------------------------------------------------------
-- Senders
-- ---------------------------------------------------------------------------

namespace Tables

variable {t t' : Tables}

def SentByMembers (t : Tables) : Prop :=
  ∀ m ∈ t.messages.rows, t.isParticipant m.conversationId m.senderId = true

theorem Grows.isParticipant (h : t.Grows t') (hm : t.isParticipant c u = true) :
    t'.isParticipant c u = true := by
  obtain ⟨p, hp, hc, hu⟩ := isParticipant_iff.mp hm
  obtain ⟨p', hp', heq⟩ := List.mem_map.mp (h.participants.subset (List.mem_map_of_mem hp))
  simp only [Participant.fixed, Prod.mk.injEq] at heq
  obtain ⟨-, hc', hu', -⟩ := heq
  exact isParticipant_iff.mpr ⟨p', hp', hc'.trans hc, hu'.trans hu⟩

theorem SentByMembers.grow (h : t.SentByMembers) (hg : t.Grows t')
    (hnew : ∀ m ∈ t'.messages.rows, m ∈ t.messages.rows ∨
      t.isParticipant m.conversationId m.senderId = true) : t'.SentByMembers := by
  intro m hm
  rcases hnew m hm with hold | hmember
  · exact hg.isParticipant (h m hold)
  · exact hg.isParticipant hmember

theorem OwnWrite.sender (h : t.OwnWrite u route t') (hm : m ∈ t'.messages.rows) :
    m ∈ t.messages.rows ∨ t.isParticipant m.conversationId m.senderId = true := by
  cases h with
  | nothing | loggedOut | opened | marked => exact .inl hm
  | sent _ hmember huser =>
    rcases List.mem_append.mp hm with hm | hm
    · exact .inl hm
    · obtain rfl := List.mem_singleton.mp hm
      exact .inr (huser ▸ hmember)

end Tables

theorem Http.Call.answer_grows (c : Call) : c.db.committed.Grows c.answer.2.committed := by
  rcases answer_work c with hdb | ⟨w, -, hdoes⟩
  · rw [hdb]
    exact .refl
  · exact hdoes.commits.reaches.grows

theorem Http.Call.answer_sentByMembers (c : Call) (ht : c.db.committed.Integrity)
    (h : c.db.committed.SentByMembers) : c.answer.2.committed.SentByMembers := by
  refine h.grow (answer_grows c) fun m hm => ?_
  rcases answer_serves c with ⟨hdb, -⟩ | ⟨verb, route, r, -, ⟨-, hserve⟩ | ⟨-, u, -, hserve⟩⟩
  · rw [hdb] at hm
    exact .inl hm
  · rw [(servePublic_frame hserve).2.2] at hm
    exact .inl hm
  · exact (serveUser_own ht hserve).sender hm

namespace System

/-- A request with a token of `u` changes nothing but what is of `u`, in every session. So in every
session of clients the sender of each message takes part in its conversation. -/
theorem request_writes_own (clock : Instant) :
    (∀ (steps : List Step) (time : Option Instant) (r : Http.Request) (draws : Draws)
      (token : String) (u : Int) (route : Route),
      let s := ((start clock).run steps).2
      r.bearerToken? = some token → s.db.committed.userIdByToken token = .ok u →
      Route.of? r.target = some route → route.isProtected = true →
      s.db.committed.OwnWrite u route (s.step ⟨time, .request r draws⟩).2.db.committed) ∧
    ∀ steps : List Step, (∀ st ∈ steps, st.action.isClient = true) →
      ((start clock).run steps).2.db.committed.SentByMembers := by
  constructor
  · intro steps time r draws token u route s htoken hu hroute hprotected
    let c : Http.Call := ⟨r, time.getD s.clock, draws, s.db⟩
    exact Http.Call.answer_own (c := c) (integrity_run clock steps) htoken hu hroute hprotected
  · intro steps hsteps
    refine (clients_keep clock hsteps ?_ Http.Call.answer_sentByMembers).keeps
    rintro m ⟨⟩

/-- The second user answers the first message. -/
theorem reply_writes_own :
    let s := ((start .epoch).run (firstMessage.map Visit.step)).2
    let r := requestFor 1 "POST" "/api/conversations/1/messages" "[\"eW8=\"]"
    let t := (s.step ⟨none, .request r (drawsFor 4)⟩).2.db.committed
    s.db.committed.OwnWrite 2 (.messages "1") t ∧ t.messages.rows.map Message.senderId = [1, 2] ∧
      s.db.committed.SentByMembers :=
  ⟨(request_writes_own .epoch).1 _ none _ _ (drawsFor 1).tokenText 2 _ (by decide +kernel)
    (by decide +kernel) (by decide +kernel) rfl, by decide +kernel,
    (request_writes_own .epoch).2 _ (by decide +kernel)⟩

end System
end Parley
