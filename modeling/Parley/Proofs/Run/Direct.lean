import Parley.Proofs.Http.Answers
import Parley.Proofs.Run.Step
import Parley.Proofs.Store.Direct
import Parley.Proofs.Store.Growth

/-!
# Direct conversations over a run

Whoever asks for the direct conversation of two users, in whichever order and through whichever
layer, gets the conversation that was answered first.
-/

namespace Parley

theorem eq_of_length_le_one {l : List α} (h : l.length ≤ 1) (ha : a ∈ l) (hb : b ∈ l) :
    a = b := by
  cases l with
  | nil => cases ha
  | cons x rest =>
    obtain rfl : rest = [] := List.length_eq_zero_iff.mp (Nat.le_zero.mp (Nat.le_of_succ_le_succ h))
    exact (List.mem_singleton.mp ha).trans (List.mem_singleton.mp hb).symm

namespace Tables

theorem Integrity.countP_directKey {t : Tables} (ht : t.Integrity) (key : String) :
    t.conversations.rows.countP (·.directKey == some key) ≤ 1 := by
  have := List.nodup_iff_count_le_one.mp ht.directKeys key
  rwa [List.filterMap_map, List.count_filterMap] at this

theorem Integrity.eq_of_directKey {t : Tables} (ht : t.Integrity) {key : String}
    (hc : c ∈ t.conversations.rows) (hc' : c' ∈ t.conversations.rows)
    (h : c.directKey = some key) (h' : c'.directKey = some key) : c = c' := by
  have hone : (t.conversations.rows.filter (·.directKey == some key)).length ≤ 1 := by
    rw [← List.countP_eq_length_filter]
    exact ht.countP_directKey key
  exact eq_of_length_le_one hone (by simp [hc, h]) (by simp [hc', h'])

theorem Founds.conversation {groups : Prop} {t t' : Tables} (ht : t.Integrity)
    (hf : t.Founds groups t') (hc' : c' ∈ t'.conversations.rows) :
    (∃ c ∈ t.conversations.rows, c.id = c'.id ∧ c.directKey = c'.directKey) ∨
      (groups ∧ c'.directKey = none) ∨
      ∃ pair : Pair, c'.directKey = some pair.key ∧ t'.IsDirect pair c'.id := by
  cases hf with
  | same hsame =>
    have hmem : c'.fixed ∈ t.conversations.rows.map Conversation.fixed :=
      hsame.conversations ▸ List.mem_map_of_mem hc'
    obtain ⟨c, hc, heq⟩ := List.mem_map.mp hmem
    simp only [Conversation.fixed, Prod.mk.injEq] at heq
    exact .inl ⟨c, hc, heq.1, heq.2.1⟩
  | group hgroup =>
    rw [conversations_withConversation, Table.rows_add, List.mem_append,
      List.mem_singleton] at hc'
    rcases hc' with hc | rfl
    · exact .inl ⟨c', hc, rfl, rfl⟩
    · exact .inr (.inl ⟨hgroup, rfl⟩)
  | direct pair hkey =>
    rw [conversations_withConversation, Table.rows_add, List.mem_append,
      List.mem_singleton] at hc'
    rcases hc' with hc | rfl
    · exact .inl ⟨c', hc, rfl, rfl⟩
    · exact .inr (.inr ⟨pair, rfl, isDirect_withConversation ht pair⟩)

/-- Every conversation carries the key of a pair and is the direct conversation of that pair. -/
def Keyed (t : Tables) : Prop :=
  ∀ c ∈ t.conversations.rows, ∃ pair : Pair, c.directKey = some pair.key ∧ t.IsDirect pair c.id

theorem Keyed.founds {t t' : Tables} (h : t.Keyed) (ht : t.Integrity) (hf : t.Founds False t') :
    t'.Keyed := by
  intro c' hc'
  rcases hf.conversation ht hc' with ⟨c, hc, hid, hkey⟩ | ⟨hgroup, -⟩ | hnew
  · obtain ⟨pair, hpair, hdirect⟩ := h c hc
    rw [← hid, ← hkey]
    exact ⟨pair, hpair, (hf.joins.isDirect (ht.conversationIds.ascending.2 c hc)).mpr hdirect⟩
  · exact hgroup.elim
  · exact hnew

theorem IsDirect.isParticipant {t : Tables} (h : t.IsDirect pair c) :
    t.isParticipant c pair.low = true ∧ t.isParticipant c pair.high = true :=
  ⟨isParticipant_iff_members.mpr h.low, isParticipant_iff_members.mpr h.high⟩

theorem Keyed.eq_of_users {t : Tables} (h : t.Keyed) (ht : t.Integrity)
    (hc : c ∈ t.conversations.rows) (hc' : c' ∈ t.conversations.rows)
    (hab : ∀ u, t.isParticipant c.id u = true ↔ u = a ∨ u = b)
    (hab' : ∀ u, t.isParticipant c'.id u = true ↔ u = a ∨ u = b) : c = c' := by
  obtain ⟨pair, hkey, hdirect⟩ := h c hc
  obtain ⟨pair', hkey', hdirect'⟩ := h c' hc'
  have hsame : pair = pair' := by
    have := (hab _).mp hdirect.isParticipant.1
    have := (hab _).mp hdirect.isParticipant.2
    have := (hab' _).mp hdirect'.isParticipant.1
    have := (hab' _).mp hdirect'.isParticipant.2
    have := pair.low_lt_high
    have := pair'.low_lt_high
    have hlow : pair.low = pair'.low := by omega
    have hhigh : pair.high = pair'.high := by omega
    cases pair; cases pair'; simp_all
  exact ht.eq_of_directKey hc hc' hkey (hsame ▸ hkey')

end Tables

def Http.Call.opens? (c : Call) : Option (Int × Int) :=
  match c.request.asks?, c.authenticate with
  | some (.post, .conversation segment), .ok u =>
    match pathId segment with
    | .ok v => some (u, v)
    | .error _ => none
  | _, _ => none

theorem Http.Call.getOrCreateDirect_of_opens? {c : Call} (h : c.opens? = some (u, v))
    (hok : c.answer.1.status < 400) : ∃ r,
      c.db.getOrCreateDirect c.now u v = .ok r c.answer.2 ∧
      c.answer.1.int? "conversation_id" = some r.conversation.id ∧
      c.answer.1.bool? "is_new" = some r.isNew := by
  unfold opens? at h
  split at h
  · rename_i segment u' hasks hu'
    split at h
    · rename_i v' hv'
      cases h
      obtain ⟨_, _, r, hu, hv, hr, hid, hnew⟩ := answer_opens hasks hok
      obtain rfl := Except.ok.inj (hu'.symm.trans hu)
      obtain rfl := Except.ok.inj (hv'.symm.trans hv)
      exact ⟨r, hr, hid, hnew⟩
    · cases h
  · cases h

namespace System

/-- What a step answers about the direct conversation of two users, if it asks for it in either order
and is not refused: the id, and whether the conversation is new. -/
def directAnswer? (a b : Int) (s : System) (st : Step) : Option (Option Int × Option Bool) :=
  match st.action, (s.step st).1 with
  | .store (.getOrCreateDirect x y), .report (.direct r) =>
    if (x, y) = (a, b) ∨ (x, y) = (b, a) then some (some r.conversation.id, some r.isNew) else none
  | .request r draws, .reply reply =>
    let asked := Http.Call.opens? ⟨r, (s.tick st).clock, draws, s.db⟩
    if (asked = some (a, b) ∨ asked = some (b, a)) ∧ reply.status < 400 then
      some (reply.int? "conversation_id", reply.bool? "is_new")
    else none
  | _, _ => none

def directAnswers (a b : Int) (s : System) : List Step → List (Option Int × Option Bool)
  | [] => []
  | st :: rest => (directAnswer? a b s st).toList ++ directAnswers a b (s.step st).2 rest

variable {s : System} {st : Step}

theorem directAnswer?_some (h : directAnswer? a b s st = some x) : ∃ u v r,
    ((u, v) = (a, b) ∨ (u, v) = (b, a)) ∧
    s.db.getOrCreateDirect (s.tick st).clock u v = .ok r (s.step st).2.db ∧
    x = (some r.conversation.id, some r.isNew) := by
  obtain ⟨time, action⟩ := st
  unfold directAnswer? at h
  split at h
  · rename_i u v r haction houtcome
    obtain rfl : action = _ := haction
    split at h
    · rename_i hab
      cases h
      obtain ⟨r', hr, heq⟩ := Database.map_ok.mp (step_store houtcome)
      cases heq
      exact ⟨u, v, r, hab, hr, rfl⟩
    · cases h
  · rename_i r draws reply haction houtcome
    obtain rfl : action = _ := haction
    rw [step_request] at houtcome
    cases houtcome
    dsimp only at h
    split at h
    · rename_i hasked
      cases h
      obtain ⟨hab, hok⟩ := hasked
      have hopened {u v : Int}
          (h : Http.Call.opens? ⟨r, time.getD s.clock, draws, s.db⟩ = some (u, v)) :=
        Http.Call.getOrCreateDirect_of_opens? h hok
      rcases hab with hab | hab
      · obtain ⟨result, hresult, hid, hnew⟩ := hopened hab
        exact ⟨a, b, result, .inl rfl, hresult, by rw [hid, hnew]⟩
      · obtain ⟨result, hresult, hid, hnew⟩ := hopened hab
        exact ⟨b, a, result, .inr rfl, hresult, by rw [hid, hnew]⟩
    · cases h
  · cases h

/-- The tables are whole, and the held transaction will found no conversation. -/
structure Settled (s : System) : Prop where
  consistent : s.db.Consistent fun c => c.founds = false
  whole : s.db.committed.Integrity

theorem Settled.step (h : s.Settled) (hst : st.action.Within fun c => c.founds = false) :
    (s.step st).2.Settled ∧ s.db.committed.Founds
      (∃ a b, st.action = .store (.createConversation a b)) (s.step st).2.db.committed := by
  obtain ⟨hconsistent, hmoves⟩ := act_moves (s := s.tick st) h.consistent hst
  refine ⟨⟨hconsistent, hmoves.reaches.integrity h.whole⟩, ?_⟩
  cases hmoves with
  | rest hsame =>
    rw [step_eq, hsame]
    exact .same .refl
  | commit hreaches => exact .same hreaches.sameConversations
  | work hworks hdoes =>
    refine (hdoes.founds fun c hc => ?_).mono ?_
    · subst hc
      generalize st.action = action at hst hworks
      cases hworks with
      | statement => exact hst _ _ rfl
      | request hreq => cases hreq <;> rfl
    · rintro ⟨a, b, rfl⟩
      generalize st.action = action at hworks ⊢
      cases hworks with
      | store => exact ⟨a, b, rfl⟩
      | request hreq => cases hreq

theorem settled_start (clock : Instant) : (start clock).Settled :=
  ⟨consistent_start clock, Tables.integrity_empty⟩

/-- An answer names the conversation that is found after it. If one was found before it, it is not
new. -/
theorem Settled.directAnswer? (h : s.Settled) (hx : directAnswer? a b s st = some x) :
    ∃ pair, Pair.of a b = .ok pair ∧ ∃ id isNew, x = (some id, some isNew) ∧
      (s.step st).2.db.committed.findDirect pair = .ok id ∧
      (isNew = true → ∃ e, s.db.committed.findDirect pair = .error e) := by
  obtain ⟨u, v, r, huv, hr, rfl⟩ := directAnswer?_some hx
  obtain ⟨pair, hpair, hcases⟩ := Database.getOrCreateDirect_cases hr
  have hab : Pair.of a b = .ok pair := by
    rcases huv with heq | heq
    · cases heq; exact hpair
    · cases heq; exact Pair.of_swap hpair
  refine ⟨pair, hab, _, _, rfl, ?_⟩
  rcases hcases with ⟨hnew, hdb, hfind, -⟩ | ⟨-, ⟨e, hnone⟩, -, -, -, hrow, hdb⟩
  · rw [hdb, hnew]
    exact ⟨hfind, by rintro ⟨⟩⟩
  · rw [hdb, hrow]
    exact ⟨Tables.findDirect_withConversation h.whole hnone, fun _ => ⟨e, hnone⟩⟩

theorem directAnswers_of_found (hpair : Pair.of a b = .ok pair) {id : Int} (steps : List Step)
    (hsteps : ∀ st ∈ steps, st.action.Within fun c => c.founds = false) (hs : s.Settled)
    (hfind : s.db.committed.findDirect pair = .ok id) :
    ∀ x ∈ directAnswers a b s steps, x = (some id, some false) := by
  -- What is found for the pair is carried from state to state; an answer is what is found after it.
  induction steps generalizing s with
  | nil => rintro x ⟨⟩
  | cons st rest ih =>
    obtain ⟨hsettled, hfounds⟩ := hs.step (hsteps st List.mem_cons_self)
    have hfind' := Tables.findDirect_of_joins hs.whole hfounds.joins hfind
    intro x hx
    rw [directAnswers, List.mem_append, Option.mem_toList] at hx
    rcases hx with hx | hx
    · obtain ⟨pair', hpair', id', isNew, rfl, hid', hnew⟩ := hs.directAnswer? hx
      obtain rfl := Except.ok.inj (hpair.symm.trans hpair')
      obtain rfl := Except.ok.inj (hfind'.symm.trans hid')
      cases isNew with
      | false => rfl
      | true =>
        obtain ⟨e, he⟩ := hnew rfl
        rw [hfind] at he
        cases he
    · exact ih (fun st' hst' => hsteps st' (List.mem_cons_of_mem _ hst')) hsettled hfind' x hx

theorem directAnswers_agree (steps : List Step)
    (hsteps : ∀ st ∈ steps, st.action.Within fun c => c.founds = false) (hs : s.Settled) :
    ∃ id : Int, (∀ x ∈ directAnswers a b s steps,
        x = (some id, some true) ∨ x = (some id, some false)) ∧
      ∀ x ∈ (directAnswers a b s steps).tail, x = (some id, some false) := by
  -- Steps without an answer change nothing here. The first answer fixes the id for all that follow.
  induction steps generalizing s with
  | nil => exact ⟨0, by rintro _ ⟨⟩, by rintro _ ⟨⟩⟩
  | cons st rest ih =>
    obtain ⟨hsettled, -⟩ := hs.step (hsteps st List.mem_cons_self)
    have hrest := fun st' hst' => hsteps st' (List.mem_cons_of_mem _ hst')
    rw [directAnswers]
    cases hx : directAnswer? a b s st with
    | none => exact ih hrest hsettled
    | some x =>
      obtain ⟨pair, hpair, id, isNew, rfl, hid, -⟩ := hs.directAnswer? hx
      have hlater := directAnswers_of_found hpair rest hrest hsettled hid
      refine ⟨id, fun y hy => ?_, fun y hy => hlater y hy⟩
      rcases List.mem_cons.mp hy with rfl | hy
      · cases isNew <;> simp
      · exact .inr (hlater y hy)

theorem keyed_run (steps : List Step)
    (hsteps : ∀ st ∈ steps, st.action.Within fun c => c.founds = false)
    (hgroups : ∀ st ∈ steps, ∀ a b, st.action ≠ .store (.createConversation a b))
    (clock : Instant) : ((start clock).run steps).2.db.committed.Keyed := by
  refine (run_keeps (P := fun s => s.Settled ∧ s.db.committed.Keyed)
    ⟨settled_start clock, by rintro _ ⟨⟩⟩ ?_).2
  rintro s ⟨hs, hkeyed⟩ st hst
  obtain ⟨hsettled, hfounds⟩ := hs.step (hsteps st hst)
  refine ⟨hsettled, hkeyed.founds hs.whole (hfounds.mono ?_)⟩
  rintro ⟨a, b, h⟩
  exact hgroups st hst a b h

theorem key_of_earlier (clock : Instant) {before steps : List Step} (hearlier : before <+: steps)
    (hc : c ∈ ((start clock).run before).2.db.committed.conversations.rows) :
    ∃ c' ∈ ((start clock).run steps).2.db.committed.conversations.rows,
      c'.id = c.id ∧ c'.directKey = c.directKey := by
  obtain ⟨more, rfl⟩ := hearlier
  rw [run_append]
  have hreaches := run_reaches
    (consistent_run (consistent_start clock) fun (st : Step) (_ : st ∈ before) _ _ _ => trivial) more
  obtain ⟨c', hc', heq⟩ := hreaches.grows.conversation hc
  simp only [Conversation.fixed, Prod.mk.injEq] at heq
  exact ⟨c', hc', heq.1, heq.2.1⟩

/-- Over a run in which statements found no conversation, all answers about the direct conversation
of two users name one id and only the first may say that it is new; one row at most ever carries the
pair's key; and if the run makes no groups, one conversation at most is between just the two. -/
theorem direct_conversation_stable (clock : Instant) (steps : List Step)
    (hsteps : ∀ st ∈ steps, st.action.Within fun c => c.founds = false) (a b : Int) :
    (∃ id : Int,
      (∀ x ∈ directAnswers a b (start clock) steps,
        x = (some id, some true) ∨ x = (some id, some false)) ∧
      ∀ x ∈ (directAnswers a b (start clock) steps).tail, x = (some id, some false)) ∧
    (∀ pair, Pair.of a b = .ok pair →
      ((start clock).run steps).2.db.committed.conversations.rows.countP
        (·.directKey == some pair.key) ≤ 1 ∧
      ∀ before after, before <+: steps → after <+: steps →
        ∀ c ∈ ((start clock).run before).2.db.committed.conversations.rows,
        ∀ c' ∈ ((start clock).run after).2.db.committed.conversations.rows,
          c.directKey = some pair.key → c'.directKey = some pair.key → c.id = c'.id) ∧
    ((∀ st ∈ steps, ∀ x y, st.action ≠ .store (.createConversation x y)) →
      ∀ c ∈ ((start clock).run steps).2.db.committed.conversations.rows,
      ∀ c' ∈ ((start clock).run steps).2.db.committed.conversations.rows,
        (∀ u, ((start clock).run steps).2.db.committed.isParticipant c.id u = true ↔
          u = a ∨ u = b) →
        (∀ u, ((start clock).run steps).2.db.committed.isParticipant c'.id u = true ↔
          u = a ∨ u = b) → c = c') := by
  have hwhole := integrity_run clock steps
  refine ⟨directAnswers_agree steps hsteps (settled_start clock), fun pair _ => ⟨?_, ?_⟩, ?_⟩
  · exact hwhole.countP_directKey pair.key
  · intro before after hbefore hafter c hc c' hc' hkey hkey'
    obtain ⟨row, hrow, hid, hrowkey⟩ := key_of_earlier clock hbefore hc
    obtain ⟨row', hrow', hid', hrowkey'⟩ := key_of_earlier clock hafter hc'
    rw [← hid, ← hid', hwhole.eq_of_directKey hrow hrow' (hrowkey.trans hkey)
      (hrowkey'.trans hkey')]
  · intro hgroups c hc c' hc' hab hab'
    exact (keyed_run steps hsteps hgroups clock).eq_of_users hwhole hc hc' hab hab'

/-- Two users who ask for their conversation twice, the second time while a held transaction, which
has been told of the first, has the write lock. -/
def reopening : List Step :=
  [⟨none, .store (.createAccount ⟨"ada", "ada@example.org", "h", "customer"⟩ "t1")⟩,
    ⟨none, .store (.createAccount ⟨"bob", "bob@example.org", "h", "customer"⟩ "t2")⟩,
    ⟨none, .store (.getOrCreateDirect 1 2)⟩,
    ⟨none, .beginHeld⟩,
    ⟨none, .statement true (.change (.touchConversation 1 .epoch))⟩,
    ⟨none, .store (.getOrCreateDirect 2 1)⟩]

theorem reopening_founds_nothing :
    ∀ st ∈ reopening, st.action.Within fun c => c.founds = false := by
  rintro st hst held c h
  simp only [reopening, List.mem_cons, List.not_mem_nil, or_false] at hst
  rcases hst with rfl | rfl | rfl | rfl | rfl | rfl <;> cases h
  rfl

theorem direct_conversation_reopened :
    directAnswers 1 2 (start .epoch) reopening = [(some 1, some true), (some 1, some false)] ∧
    ∀ x ∈ (directAnswers 1 2 (start .epoch) reopening).tail, x.2 = some false := by
  refine ⟨by decide +kernel, fun x hx => ?_⟩
  obtain ⟨⟨id, -, htail⟩, -⟩ :=
    direct_conversation_stable .epoch reopening reopening_founds_nothing 1 2
  rw [htail x hx]

end System
end Parley
