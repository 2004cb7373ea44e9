import Parley.Proofs.Page
import Parley.Proofs.Run.Views
import Parley.Proofs.Store.Inbox

/-!
# What listings show

`pages_show_all`: whoever asks for page after page sees the whole listing once, in its order.
`unread_counts_agree`: the inbox and the count for one conversation say the same of what is unread,
whichever tables are shown.
-/

namespace Parley.System

/-- In every session, whatever limit is asked for: pages have between 1 and 100 entries, and those from
the start up to the first that is not full are the messages of the conversation, and the lines of the
inbox, in their order. A negative offset leaves out nothing. -/
theorem pages_show_all (clock : Instant) (steps : List Step) (asked : Option Int)
    (defaultLimit : Int) :
    let t := ((start clock).run steps).2.db.committed
    let page (offset : Int) := Page.resolve ⟨asked, some offset⟩ defaultLimit
    let size := (page 0).limit
    (1 ≤ size ∧ size ≤ 100) ∧ (∀ offset < 0, page offset = page 0) ∧
    (∀ c, ∃ all, t.IsHistory c all ∧
      (∀ shown, Page.Walk (fun offset => t.listMessages c (page offset)) size 0 shown ↔
        shown = all) ∧
      ∀ limit, ∀ offset < 0, t.listMessages c ⟨limit, offset⟩ = t.listMessages c ⟨limit, 0⟩) ∧
    ∀ u, ∃ all, t.IsInbox u all ∧
      (∀ shown, Page.Walk (fun offset => t.listInbox u (page offset)) size 0 shown ↔
        shown = all) ∧
      ∀ limit, ∀ offset < 0, t.listInbox u ⟨limit, offset⟩ = t.listInbox u ⟨limit, 0⟩ := by
  intro t page size
  have ht : t.Integrity := integrity_run clock steps
  refine ⟨Page.limit_resolve _ _, fun offset h => Page.resolve_of_neg _ _ h,
    fun c => ⟨t.allMessages c, Tables.isHistory_allMessages ht c, fun shown => ?_, ?_⟩,
    fun u => ⟨t.inbox u, Tables.isInbox_inbox ht u, fun shown => ?_, ?_⟩⟩
  · exact Page.walk_resolve_iff (t.allMessages c)
  · exact fun limit offset h => Page.cut_of_neg (t.allMessages c) h
  · exact Page.walk_resolve_iff (t.inbox u)
  · exact fun limit offset h => Page.cut_of_neg (t.inbox u) h

def threeAtOnce : List Step :=
  [⟨none, .store (.createAccount ⟨"ada", "ada@example.org", "h", "customer"⟩ "t1")⟩,
    ⟨none, .store (.createAccount ⟨"bob", "bob@example.org", "h", "customer"⟩ "t2")⟩,
    ⟨none, .store (.getOrCreateDirect 1 2)⟩,
    ⟨none, .store (.sendMessage ⟨1, 1, "aGk=", "k1"⟩)⟩,
    ⟨none, .store (.sendMessage ⟨1, 2, "eW8=", "k2"⟩)⟩,
    ⟨none, .store (.sendMessage ⟨1, 1, "aGk=", "k3"⟩)⟩]

theorem threeAtOnce_in_pages :
    let t := ((start .epoch).run threeAtOnce).2.db.committed
    let page (offset : Int) := Page.resolve ⟨some 2, some offset⟩ 50
    t.listMessages 1 (page (-7)) = t.listMessages 1 (page 0) ∧
      ∃ shown, Page.Walk (fun offset => t.listMessages 1 (page offset)) 2 0 shown ∧
        shown.length = 3 ∧
        shown.Pairwise (LaterFirst Message.sentAt fun a b => b.id < a.id) := by
  intro t page
  obtain ⟨-, hnegative, hmessages, -⟩ := pages_show_all .epoch threeAtOnce (some 2) 50
  obtain ⟨shown, hhistory, hwalk, -⟩ := hmessages 1
  refine ⟨congrArg (t.listMessages 1) (hnegative (-7) (by decide)), shown, (hwalk shown).mpr rfl,
    ?_, hhistory.order⟩
  rw [hhistory.perm.length_eq]
  decide +kernel

/-- Of all tables that a session shows, those that a held transaction sees among them: the whole inbox
of a user has one line for each conversation and other participant, and its count of unread messages is
the one for the conversation. That is zero for whoever does not take part. -/
theorem unread_counts_agree (clock : Instant) (steps : List Step) (t : Tables)
    (ht : ((start clock).run steps).2.db.Shows t) (u : Int) (page : Page)
    (hlimit : page.limit < 0) (hoffset : page.offset ≤ 0) :
    t.IsInbox u (t.listInbox u page) ∧
    (∀ e ∈ t.listInbox u page, e.unreadCount = t.countUnread e.conversationId u) ∧
    ∀ c, t.isParticipant c u = false → t.countUnread c u = 0 := by
  have hwhole : t.Integrity := (linked_run clock steps).shown ht
  refine ⟨?_, fun e he => ?_, fun c h => Tables.countUnread_of_not_member h⟩
  · rw [Tables.listInbox_all hlimit hoffset]
    exact Tables.isInbox_inbox hwhole u
  · exact Tables.unreadCount_of_mem hwhole (Tables.mem_of_mem_listInbox he)

/-- In a transaction that is held, a third user joins two, and a fourth sends them a message. -/
def joinedInside : List Step :=
  [⟨none, .store (.createAccount ⟨"ada", "ada@example.org", "h", "customer"⟩ "t1")⟩,
    ⟨none, .store (.createAccount ⟨"bob", "bob@example.org", "h", "customer"⟩ "t2")⟩,
    ⟨none, .store (.createAccount ⟨"cyd", "cyd@example.org", "h", "customer"⟩ "t3")⟩,
    ⟨none, .store (.createAccount ⟨"dan", "dan@example.org", "h", "customer"⟩ "t4")⟩,
    ⟨none, .store (.getOrCreateDirect 1 2)⟩,
    ⟨none, .store (.sendMessage ⟨1, 2, "aGk=", "k1"⟩)⟩,
    ⟨none, .beginHeld⟩,
    ⟨none, .statement true (.change (.addParticipant 1 3 .epoch))⟩,
    ⟨none, .statement true (.change (.createMessage ⟨1, 4, "eW8=", "k2"⟩ .epoch))⟩]

theorem joinedInside_counts :
    let s := ((start .epoch).run joinedInside).2
    let t := s.db.latest
    s.db.isLocked = true ∧ (1, 3) ∈ (t.listInbox 1 ⟨-1, 0⟩).map InboxEntry.about ∧
      (∀ e ∈ t.listInbox 1 ⟨-1, 0⟩, e.conversationId = 1 → e.unreadCount = 2) ∧
      t.countUnread 1 4 = 0 := by
  intro s t
  have hagree (u : Int) := unread_counts_agree .epoch joinedInside t (Database.shows_latest _) u
    ⟨-1, 0⟩ (by decide) (by decide)
  obtain ⟨hinbox, hcounts, -⟩ := hagree 1
  refine ⟨by decide +kernel, (hinbox.about 1 3).mpr (by decide +kernel), fun e he hin => ?_,
    (hagree 4).2.2 1 (by decide +kernel)⟩
  rw [hcounts e he, hin]
  decide +kernel

end Parley.System
