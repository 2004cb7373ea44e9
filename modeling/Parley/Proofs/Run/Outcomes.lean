import Parley.Proofs.Run.Acknowledged
import Parley.Proofs.Run.Retry
import Parley.Proofs.Store.Opening

/-!
# What is answered

With nobody beside it, the store answers by the first case that applies: whoever sends a message
(`sending_decided`), and whoever asks for the direct conversation of two users (`opening_decided`).
-/

namespace Parley

theorem Tables.sending_sent {t : Tables} (h : t.sending now new = .ok (.sent m c)) :
    ∃ row ∈ t.conversations.rows, m.sentAt = .of (max now row.updatedAt.instant) ∧
      c = row.activeAt m.sentAt := by
  unfold sending at h
  split at h
  · cases h
  split at h
  · cases h
  split at h
  · cases h
  · cases h
  · next row hrow _ =>
    split at h
    · cases h
      exact ⟨row, List.mem_of_find?_eq_some hrow, rfl, rfl⟩
    · cases h

namespace System

variable {s : System}

/-- In every session, a message that is sent to an open database whose write lock is free is answered
as the tables decide. The conversation that comes back with a new message was last active at the
message's own time, if the clock and the times given to statements are in four-digit years. -/
theorem sending_decided (clock : Instant) (steps : List Step) (s : System)
    (hs : s = ((start clock).run steps).2) (hopen : s.db.isOpen = true)
    (hlock : s.db.isLocked = false) (time : Option Instant) (new : NewMessage) :
    let answered := s.db.committed.sending (time.getD s.clock) new
    (s.step ⟨time, .store (.sendMessage new)⟩).1 = ofResult (.report ∘ .sending) answered ∧
    (clock.FourDigitYear → (∀ st ∈ steps, st.Dated) →
      (∀ now, time = some now → now.FourDigitYear) →
      ∀ m c, answered = .ok (.sent m c) → c.updatedAt = m.sentAt) := by
  intro answered
  have ht : s.db.committed.Integrity := hs ▸ integrity_run clock steps
  constructor
  · have hanswered := Database.sendMessage_sending hopen hlock ht (time.getD s.clock) new
    simp only [answered, ← hanswered, step, act, Operation.run]
    cases s.db.sendMessage (time.getD s.clock) new <;> rfl
  · intro hclock hdated htime m c hsent
    have htimed : s.Timed := hs ▸ timed_run hclock hdated
    have hnow : (time.getD s.clock).FourDigitYear := by
      cases time with
      | none => exact htimed.clock
      | some now => exact htime now rfl
    obtain ⟨row, hrow, hstamp, rfl⟩ := Tables.sending_sent hsent
    rw [Conversation.updatedAt_activeAt, hstamp]
    exact max_eq_right (Stamp.le_of_max hnow (htimed.timed.conversationYears row hrow).2)

/-- After the greeting, the first thing that is wrong is answered, and a key that is taken comes before
a sender who does not exist. -/
theorem sending_after_greeting :
    let s := ((start .epoch).run greeting).2
    let out (new : NewMessage) := (s.step ⟨some (atSecond 5), .store (.sendMessage new)⟩).1
    out ⟨7, 9, "", "\t"⟩ = .refused (.invalid .blankKey) ∧
    out ⟨7, 9, "", "k"⟩ = .refused (.invalid .emptyContent) ∧
    out ⟨7, 9, "eW8=", "k"⟩ = .refused (.notFound .conversation) ∧
    out ⟨1, 9, "eW8=", "k"⟩ =
      .report (.sending (.duplicate ⟨1, 1, 1, "aGk=", "k", .of .epoch⟩)) ∧
    out ⟨1, 9, "eW8=", "k2"⟩ = .refused (.notFound .sender) ∧
    ∃ c, out ⟨1, 2, "eW8=", "k2"⟩ =
      .report (.sending (.sent ⟨2, 1, 2, "eW8=", "k2", .of (atSecond 5)⟩ c)) ∧
      c.updatedAt = .of (atSecond 5) := by
  intro s out
  have hall := sending_decided .epoch greeting s rfl (by decide +kernel) (by decide +kernel)
    (some (atSecond 5))
  have hout {new : NewMessage} (answered : Except StoreError SendOutcome)
      (h : s.db.committed.sending (atSecond 5) new = answered) :
      out new = ofResult (.report ∘ .sending) answered := h ▸ (hall new).1
  refine ⟨hout (.error _) (by decide +kernel), hout (.error _) (by decide +kernel),
    hout (.error _) (by decide +kernel), hout (.ok (.duplicate _)) (by decide +kernel),
    hout (.error _) (by decide +kernel), ?_⟩
  have hsent : s.db.committed.sending (atSecond 5) ⟨1, 2, "eW8=", "k2"⟩ =
      .ok (.sent ⟨2, 1, 2, "eW8=", "k2", .of (atSecond 5)⟩
        ⟨1, some "1:2", .of .epoch, .of (atSecond 5)⟩) := by decide +kernel
  exact ⟨_, hout _ hsent, (hall _).2 (by decide +kernel) greeting_dated
    (fun now hnow => Option.some.inj hnow ▸ by decide +kernel) _ _ hsent⟩

/-- What two users are answered who ask for their direct conversation, and what then is stored. -/
structure Opening (a b : Int) (t t' : Tables) (out : Outcome) : Prop where
  found : (∃ c, t.Between a b c) → ∃ row ∈ t.conversations.rows, t.Between a b row.id ∧
    (∀ c, t.Between a b c → row.id ≤ c) ∧ out = .report (.direct ⟨row, false⟩) ∧ t' = t
  unknown : (∀ c, ¬ t.Between a b c) → (t.hasUser a = false ∨ t.hasUser b = false) →
    out = .refused (.notFound .user) ∧ t' = t
  made : (∀ c, ¬ t.Between a b c) → t.hasUser a = true → t.hasUser b = true → ∃ row,
    t'.conversations.rows = t.conversations.rows ++ [row] ∧
      row.directKey = some s!"{min a b}:{max a b}" ∧ t'.Between a b row.id ∧
      out = .report (.direct ⟨row, true⟩)

theorem step_opens (h : s.db.getOrCreateDirect (time.getD s.clock) a b = .ok r db') :
    s.step ⟨time, .store (.getOrCreateDirect a b)⟩ =
      (.report (.direct r), ⟨db', time.getD s.clock⟩) := by
  simp only [step, act, Operation.run, h]
  rfl

theorem step_opens_refused (h : s.db.getOrCreateDirect (time.getD s.clock) a b = .error e s.db) :
    s.step ⟨time, .store (.getOrCreateDirect a b)⟩ =
      (.refused e, { s with clock := time.getD s.clock }) := by
  simp only [step, act, Operation.run, h]
  rfl

theorem opening_of_pair (hopen : s.db.isOpen = true) (hlock : s.db.isLocked = false)
    (ht : s.db.committed.Integrity) (hpair : Pair.of a b = .ok pair)
    (hshown : ¬ s.db.committed.Hidden pair)
    (ht' : (s.step ⟨time, .store (.getOrCreateDirect a b)⟩).2.db.committed.Integrity) :
    Opening a b s.db.committed (s.step ⟨time, .store (.getOrCreateDirect a b)⟩).2.db.committed
      (s.step ⟨time, .store (.getOrCreateDirect a b)⟩).1 where
  found := by
    rintro ⟨c, hc⟩
    obtain ⟨row, hrow, hbetween, hleast, hfound⟩ :=
      Database.getOrCreateDirect_found hopen ht hpair (time.getD s.clock) hc
    rw [step_opens hfound]
    exact ⟨row, hrow, hbetween, hleast, rfl, rfl⟩
  unknown hnone hunknown := by
    rw [step_opens_refused
      (Database.getOrCreateDirect_unknown hopen hlock ht hpair hshown hnone hunknown)]
    exact ⟨rfl, rfl⟩
  made hnone ha hb := by
    have hmade := Database.getOrCreateDirect_made hopen hlock ht hpair hshown (time.getD s.clock)
      hnone ha hb
    rw [step_opens hmade] at ht' ⊢
    refine ⟨_, rfl, ?_, (Tables.isDirect_of_ok_iff ht' hpair).mp ?_, rfl⟩
    · rw [← Pair.low_of_ok hpair, ← Pair.high_of_ok hpair]
      rfl
    · exact Tables.isDirect_withConversation ht pair

/-- In every session whose statements founded no conversation, with no transaction held: whoever asks
for the direct conversation of two users is answered that this is invalid exactly if these are not two
different ids of users, and else as `Opening` says. It makes no difference in which order the two are
named, and they get the same conversation when it is asked for again. The attempt to make one never
clashes with a key. -/
theorem opening_decided (clock : Instant) (steps : List Step)
    (hsteps : ∀ st ∈ steps, st.action.Within fun c => c.founds = false) (s : System)
    (hs : s = ((start clock).run steps).2) (hopen : s.db.isOpen = true) (hheld : s.db.held = none)
    (time : Option Instant) (a b : Int) :
    let asked : Step := ⟨time, .store (.getOrCreateDirect a b)⟩
    ((∃ reason, (s.step asked).1 = .refused (.invalid reason)) ↔ a ≤ 0 ∨ b ≤ 0 ∨ a = b) ∧
    (0 < a → 0 < b → a ≠ b →
      Opening a b s.db.committed (s.step asked).2.db.committed (s.step asked).1 ∧
      s.step ⟨time, .store (.getOrCreateDirect b a)⟩ = s.step asked ∧
      (∀ r, (s.step asked).1 = .report (.direct r) → ∀ later,
        ((s.step asked).2.step ⟨later, .store (.getOrCreateDirect b a)⟩).1 =
          .report (.direct ⟨r.conversation, false⟩)) ∧
      ∀ pair, Pair.of a b = .ok pair → ∀ columns db',
        s.db.transact (Database.openDirect (time.getD s.clock) pair) ≠
          .error (.notUnique columns) db') := by
  intro asked
  have ht : s.db.committed.Integrity := hs ▸ integrity_run clock steps
  have hlock : s.db.isLocked = false := by rw [Database.isLocked, hheld]; rfl
  have hkeys : s.db.committed.KeysDirect := hs ▸ keysDirect_run clock hsteps
  have ht' : (s.step asked).2.db.committed.Integrity := by
    have := integrity_run clock (steps ++ [asked])
    rwa [run_append, ← hs] at this
  rcases Pair.of_cases a b with ⟨ha, hb, hab, pair, hpair⟩ | ⟨hinvalid, reason, hreason⟩
  · have hshown := hkeys.not_hidden pair
    refine ⟨⟨?_, fun hinvalid => by omega⟩, fun _ _ _ => ⟨?_, ?_, ?_, ?_⟩⟩
    · rintro ⟨reason, hrefused⟩
      obtain ⟨⟨-, heq⟩, -⟩ := Database.getOrCreateDirect_error hopen hlock ht hpair hshown
        (Database.map_error.mp (step_store_refused.mp hrefused))
      cases heq
    · exact opening_of_pair hopen hlock ht hpair hshown ht'
    · simp only [asked, step, act, Operation.run, Database.getOrCreateDirect_comm hab ha hb]
    · intro r hr later
      obtain ⟨r', hfirst, heq⟩ := Database.map_ok.mp (step_store hr)
      cases heq
      rw [step_opens (Database.getOrCreateDirect_again hopen ht ht' hfirst)]
    · intro pair' hpair' columns db' hclash
      obtain ⟨-, heq⟩ := Database.transact_openDirect_error hopen hlock ht
        (hkeys.not_hidden pair') hclash
      cases heq
  · refine ⟨⟨fun _ => hinvalid, fun _ => ⟨reason, step_store_refused.mpr ?_⟩⟩,
      fun ha hb hab => by omega⟩
    simp only [Operation.run, Database.getOrCreateDirect, hreason]
    rfl

/-- Three users. Two of them have two conversations, which were made without a key. -/
def keyless : List Step :=
  [⟨none, .store (.createAccount ⟨"ada", "ada@example.org", "h", "customer"⟩ "t1")⟩,
    ⟨none, .store (.createAccount ⟨"bob", "bob@example.org", "h", "customer"⟩ "t2")⟩,
    ⟨none, .store (.createAccount ⟨"cyd", "cyd@example.org", "h", "customer"⟩ "t3")⟩,
    ⟨none, .store (.createConversation 1 2)⟩,
    ⟨none, .store (.createConversation 2 1)⟩]

theorem keyless_opens :
    let s := ((start .epoch).run keyless).2
    let out (a b : Int) := (s.step ⟨some (atSecond 5), .store (.getOrCreateDirect a b)⟩).1
    (∃ reason, out 3 3 = .refused (.invalid reason)) ∧
    (∃ row, out 2 1 = .report (.direct ⟨row, false⟩) ∧ row.id ≤ 1 ∧ out 1 2 = out 2 1) ∧
    out 3 4 = .refused (.notFound .user) ∧
    ∃ row, out 3 1 = .report (.direct ⟨row, true⟩) ∧ row.directKey = some "1:3" := by
  intro s out
  have ht : s.db.committed.Integrity := integrity_run .epoch keyless
  have hall := opening_decided .epoch keyless (by
    rintro st hst held c h
    simp only [keyless, List.mem_cons, List.not_mem_nil, or_false] at hst
    rcases hst with rfl | rfl | rfl | rfl | rfl <;> cases h) s rfl (by decide +kernel)
    (by decide +kernel) (some (atSecond 5))
  have hpair : Pair.of 2 1 = .ok ⟨1, 2, by decide, by decide⟩ := rfl
  have hbetween : s.db.committed.Between 2 1 1 :=
    (Tables.isDirect_of_ok_iff ht hpair).mp (Tables.findDirect_ok.mp (by decide +kernel)).1
  have hnone (a b : Int) (pair : Pair) (hpair : Pair.of a b = .ok pair)
      (h : s.db.committed.findDirect pair = .error (.notFound .directConversation)) (c : Int) :
      ¬ s.db.committed.Between a b c :=
    fun hc => (Tables.findDirect_error.mp h).1 c ((Tables.isDirect_of_ok_iff ht hpair).mpr hc)
  refine ⟨(hall 3 3).1.mpr (by decide), ?_, ?_, ?_⟩
  · obtain ⟨hopening, hswap, -⟩ := (hall 2 1).2 (by decide) (by decide) (by decide)
    obtain ⟨row, -, -, hleast, hrow, -⟩ := hopening.found ⟨1, hbetween⟩
    exact ⟨row, hrow, hleast 1 hbetween, congrArg Prod.fst hswap⟩
  · obtain ⟨hopening, -⟩ := (hall 3 4).2 (by decide) (by decide) (by decide)
    exact (hopening.unknown (hnone 3 4 ⟨3, 4, by decide, by decide⟩ rfl (by decide +kernel))
      (by decide +kernel)).1
  · obtain ⟨hopening, -⟩ := (hall 3 1).2 (by decide) (by decide) (by decide)
    obtain ⟨row, -, hkey, -, hrow⟩ := hopening.made
      (hnone 3 1 ⟨1, 3, by decide, by decide⟩ rfl (by decide +kernel)) (by decide +kernel)
      (by decide +kernel)
    exact ⟨row, hrow, hkey⟩

end System
end Parley
