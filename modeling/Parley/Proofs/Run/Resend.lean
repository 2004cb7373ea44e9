import Parley.Proofs.Run.Step
import Parley.Proofs.Store.Sending

/-!
# Sending a message again

No two messages have one key, and messages are never rewritten. A message that is sent under a key
that is taken is therefore answered with the message that took it, whatever has happened since.
-/

namespace Parley

namespace System

/-- No two messages share a key. Sending under the key of a message, at any later time, answers with
the message as it was stored, and changes nothing. -/
theorem resend_answers_first (clock : Instant) (steps more : List Step) :
    (((start clock).run steps).2.db.committed.messages.rows.map Message.key).Nodup ∧
    ∀ m ∈ ((start clock).run steps).2.db.committed.messages.rows,
      ∀ s, s = ((start clock).run (steps ++ more)).2 → s.db.isOpen = true →
        s.db.isLocked = false → ∀ (time : Option Instant) (new : NewMessage), new.key = m.key →
        Text.allBlank new.key = false → new.content.isEmpty = false →
        s.db.committed.hasConversation new.conversationId = true →
        s.step ⟨time, .store (.sendMessage new)⟩ =
          (.report (.sending (.duplicate m)), { s with clock := time.getD s.clock }) := by
  refine ⟨(integrity_run clock steps).messageKeys, ?_⟩
  intro m hm s hs hopen hlock time new hkey hblank hcontent hc
  have hgrows : ((start clock).run steps).2.db.committed.Grows s.db.committed := by
    rw [hs, run_append]
    exact (run_reaches (consistent_run (consistent_start clock) fun _ _ _ _ _ => trivial)
      more).grows
  have hwhole : s.db.committed.Integrity := hs ▸ integrity_run clock (steps ++ more)
  have hsend (now : Instant) : s.db.sendMessage now new = .ok (.duplicate m) s.db :=
    Database.sendMessage_taken hopen hlock hwhole (hgrows.messages.subset hm) hc hkey hblank hcontent
  simp only [step, act, Operation.run, hsend]
  rfl

/-- Two users, their conversation, and a message in it. -/
def greeting : List Step :=
  [⟨none, .store (.createAccount ⟨"ada", "ada@example.org", "h", "customer"⟩ "t1")⟩,
    ⟨none, .store (.createAccount ⟨"bob", "bob@example.org", "h", "customer"⟩ "t2")⟩,
    ⟨none, .store (.getOrCreateDirect 1 2)⟩,
    ⟨none, .store (.sendMessage ⟨1, 1, "aGk=", "k"⟩)⟩]

theorem resend_after_greeting :
    let read : Step := ⟨none, .store (.markAsRead 1 2)⟩
    let s := ((start .epoch).run (greeting ++ [read])).2
    s.step ⟨none, .store (.sendMessage ⟨1, 9, "eW8=", "k"⟩)⟩ =
      (.report (.sending (.duplicate ⟨1, 1, 1, "aGk=", "k", .of .epoch⟩)), s) :=
  (resend_answers_first .epoch greeting _).2 _ (by decide +kernel) _ rfl (by decide +kernel)
    (by decide +kernel) none ⟨1, 9, "eW8=", "k"⟩ (by decide +kernel) (by decide +kernel)
    (by decide +kernel) (by decide +kernel)

end System
end Parley
