import Parley.Proofs.Pair
import Parley.Proofs.Store.Held
import Parley.Proofs.Store.Operation
import Parley.System

/-!
# Work beside the held transaction

Everything that is written beside the held transaction is either an operation of the store or a
single change. `Work.Does` says what it leads to, `Work.Makes` which changes it may make on the way,
and `Work.Does.commits` that it then commits no others.
-/

namespace Parley

def Operation.Makes (now : Instant) : Operation → Change → Prop
  | createAccount user _, .createUser u time => u = user ∧ time = now
  | createAccount _ token, .createSession _ tok time => tok = token ∧ time = now
  | createConversation _ _, .createConversation key time => key = none ∧ time = now
  | createConversation a b, .addParticipant _ u time => (u = a ∨ u = b) ∧ time = now
  | getOrCreateDirect _ _, .createConversation key time => key.isSome ∧ time = now
  | getOrCreateDirect a b, .addParticipant _ u time => (u = a ∨ u = b) ∧ time = now
  | sendMessage m, .lockConversation c => c = m.conversationId
  | sendMessage m, .createMessage m' _ => m' = m
  | sendMessage _, .touchConversation _ _ => True
  | markAsRead c u, .updateLastRead c' u' time => c' = c ∧ u' = u ∧ time = now
  | _, _ => False

inductive Work where
  | operation (op : Operation)
  | change (c : Change)

def Work.Makes (now : Instant) : Work → Change → Prop
  | operation op, c => op.Makes now c
  | change c, c' => c' = c

/-- Work at the time `now` is done and leads from `db` to `db'`. -/
inductive Work.Does (now : Instant) (db db' : Database) : Work → Prop where
  | operation : op.run db now = .ok r db' → Does now db db' (.operation op)
  | change : db.transact (.change fun t => Change.run t c) = .ok a db' →
      Does now db db' (.change c)

section
variable {allowed : Change → Prop} {now : Instant}

open Transaction (Makes)

theorem insertConversation_makes (hc : allowed (.createConversation key now))
    (ha : ∀ c, allowed (.addParticipant c a now)) (hb : ∀ c, allowed (.addParticipant c b now)) :
    (Database.insertConversation now key a b).Makes allowed := by
  refine Makes.bind (Makes.change Change.createConversation_is hc) fun c => ?_
  refine Makes.bind (Makes.adapt (Makes.change Change.addParticipant_is (ha c.id))) fun _ => ?_
  refine Makes.bind (Makes.adapt (Makes.change Change.addParticipant_is (hb c.id))) fun _ => ?_
  exact Makes.pure

theorem openDirect_makes
    (h : (Database.insertConversation now (some pair.key) pair.low pair.high).Makes allowed) :
    (Database.openDirect now pair).Makes allowed := by
  intro d r d' hr
  rcases Database.openDirect_ok hr with ⟨_, -, -, -, rfl⟩ | ⟨-, -, n, hn, -⟩
  · exact .refl
  · exact h hn

theorem deliver_makes (hl : allowed (.lockConversation m.conversationId))
    (hm : ∀ time, allowed (.createMessage m time))
    (ht : ∀ c time, allowed (.touchConversation c time)) :
    (Database.deliver now m).Makes allowed := by
  refine Makes.bind (Makes.change Change.lockConversation_is hl) fun last => ?_
  refine Makes.bind (Makes.adapt (Makes.change Change.createMessage_is (hm _))) fun _ => ?_
  refine Makes.bind (Makes.change Change.touchConversation_is (ht _ _)) fun _ => ?_
  exact Makes.bind Makes.query fun _ => Makes.pure

theorem Operation.commits (h : Operation.run db now op = .ok r db') :
    db.Commits (op.Makes now) db' := by
  cases op <;> simp only [Operation.run, Database.map_ok] at h
  case createAccount user token =>
    obtain ⟨u, h, rfl⟩ := h
    refine Database.transact_commits ?_ h
    refine Makes.bind (Makes.change Change.createUser_is ⟨rfl, rfl⟩) fun _ => ?_
    exact Makes.bind (Makes.change Change.createSession_is ⟨rfl, rfl⟩) fun _ => Makes.pure
  case createConversation a b =>
    obtain ⟨c, h, rfl⟩ := h
    exact Database.transact_commits (insertConversation_makes ⟨rfl, rfl⟩
      (fun _ => ⟨.inl rfl, rfl⟩) fun _ => ⟨.inr rfl, rfl⟩) h
  case getOrCreateDirect a b =>
    obtain ⟨c, h, rfl⟩ := h
    obtain ⟨pair, hpair, h | h⟩ := Database.getOrCreateDirect_ok h
    · refine Database.transact_commits (openDirect_makes (insertConversation_makes ⟨rfl, rfl⟩
        (fun _ => ⟨?_, rfl⟩) fun _ => ⟨?_, rfl⟩)) h
      · rcases Pair.of_ok hpair with ⟨hl, -⟩ | ⟨hl, -⟩ <;> simp [hl]
      · rcases Pair.of_ok hpair with ⟨-, hh⟩ | ⟨-, hh⟩ <;> simp [hh]
    · obtain ⟨rfl, -⟩ := Database.refetchDirect_ok h
      exact .refl
  case sendMessage m =>
    obtain ⟨s, h, rfl⟩ := h
    obtain ⟨-, -, h | h⟩ := Database.sendMessage_ok h
    · exact Database.transact_commits (deliver_makes rfl (fun _ => rfl) fun _ _ => trivial) h
    · obtain ⟨rfl, -⟩ := Database.existingMessage_ok h
      exact .refl
  case markAsRead c u =>
    obtain ⟨_, h, rfl⟩ := h
    refine Database.transact_commits ?_ h
    exact Makes.bind (Makes.change Change.updateLastRead_is ⟨rfl, rfl, rfl⟩) fun _ => Makes.pure
  case unreadCount c u =>
    obtain ⟨n, h, rfl⟩ := h
    obtain ⟨-, -, rfl⟩ := Database.read_ok.mp h
    exact .refl

theorem Work.Does.commits (h : Work.Does now db db' w) : db.Commits (w.Makes now) db' := by
  cases h with
  | operation h => exact Operation.commits h
  | change h => exact Database.transact_commits (Makes.change (Change.run_is _) rfl) h

end

end Parley
