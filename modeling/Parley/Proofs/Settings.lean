import Mathlib.Data.List.Forall2
import Mathlib.Data.List.TakeWhile
import Parley.Proofs.Except
import Parley.Proofs.Text.Numeral
import Parley.Settings.Basic

/-!
# Which settings are accepted

`settings_decided`: what is read from any variables, after an environment file or without one. Each
number is its default or what its variable writes; the first variable that gives no number is
reported, and zeros are reported only if all four give numbers.
-/

namespace Parley

theorem Text.trim_eq_empty_iff : Text.trim s = "" ↔ Text.allBlank s = true := by
  simp only [trim, allBlank, String.ofList_eq_empty_iff, List.reverse_eq_nil_iff,
    List.dropWhile_eq_nil_iff, List.mem_reverse, List.all_eq_true]
  constructor
  · intro h c hc
    rw [← List.takeWhile_append_dropWhile (p := isBlank) (l := s.toList), List.mem_append] at hc
    exact hc.elim List.mem_takeWhile_imp (h c)
  · exact fun h c hc => h c ((List.dropWhile_sublist _).subset hc)

-- ---------------------------------------------------------------------------
-- One after the other
-- ---------------------------------------------------------------------------

theorem mapM_ok {f : α → Except ε β} {xs : List α} {ys : List β} :
    xs.mapM f = .ok ys ↔ List.Forall₂ (fun x y => f x = .ok y) xs ys := by
  induction xs generalizing ys with
  | nil => simp [pure, Except.pure, eq_comm]
  | cons x xs ih =>
    simp only [List.mapM_cons, bind_ok, pure_ok, ih, List.forall₂_cons_left_iff]
    grind

theorem mapM_cons_error {f : α → Except ε β} {xs : List α} : (x :: xs).mapM f = .error e ↔
    f x = .error e ∨ (∃ y, f x = .ok y) ∧ xs.mapM f = .error e := by
  rw [List.mapM_cons, bind_error]
  simp [bind_error, pure, Except.pure]

theorem mapM_error {f : α → Except ε β} {xs : List α} : xs.mapM f = .error e ↔
    ∃ before x after, xs = before ++ x :: after ∧ (∀ y ∈ before, ∃ z, f y = .ok z) ∧
      f x = .error e := by
  induction xs with
  | nil => simp [pure, Except.pure]
  | cons x xs ih =>
    rw [mapM_cons_error, ih]
    constructor
    · rintro (hx | ⟨hx, before, y, after, rfl, hbefore, hy⟩)
      · exact ⟨[], x, xs, rfl, by simp, hx⟩
      · exact ⟨x :: before, y, after, rfl, List.forall_mem_cons.mpr ⟨hx, hbefore⟩, hy⟩
    · rintro ⟨before, y, after, heq, hbefore, hy⟩
      cases before with
      | nil =>
        obtain ⟨rfl, rfl⟩ := List.cons.inj heq
        exact .inl hy
      | cons z before =>
        obtain ⟨rfl, rfl⟩ := List.cons.inj heq
        obtain ⟨hx, hbefore⟩ := List.forall_mem_cons.mp hbefore
        exact .inr ⟨hx, before, y, after, rfl, hbefore, hy⟩

namespace Settings

variable {f : Field} {env : Environment} {hasVolume : Bool}

-- ---------------------------------------------------------------------------
-- One number
-- ---------------------------------------------------------------------------

/-- The number that a variable gives: the default if it is absent or blank, else what it writes
between its blanks, if that is not above the greatest value. -/
def Field.Gives (f : Field) (n : Nat) : Option String → Prop
  | none => n = f.default
  | some text =>
    if Text.trim text = "" then n = f.default
    else Numeral.Writes (Text.trim text).toList n ∧ n ≤ f.limit

def Field.Refuses (f : Field) (text : String) : Prop := ∀ n, ¬ f.Gives n (some text)

theorem Field.read_ok : f.read env = .ok n ↔ f.Gives n (env.lookup f.name) := by
  unfold Field.read Field.Gives
  cases env.lookup f.name with
  | none => simp [eq_comm]
  | some text =>
    simp only [Text.trim_eq_empty_iff]
    split
    · simp [eq_comm]
    · simp [Numeral.readNat_ok]

theorem Field.read_invalid (h : f.read env = .error e) :
    ∃ text, env.lookup f.name = some text ∧ e = .invalid f.name text := by
  unfold Field.read at h
  cases hvalue : env.lookup f.name with
  | none => simp [hvalue] at h
  | some text =>
    simp only [hvalue] at h
    split at h
    · cases h
    · obtain ⟨-, -, rfl⟩ := mapError_error.mp h
      exact ⟨text, rfl, rfl⟩

theorem Field.read_error : f.read env = .error e ↔
    ∃ text, env.lookup f.name = some text ∧ f.Refuses text ∧ e = .invalid f.name text := by
  constructor
  · intro h
    obtain ⟨text, htext, rfl⟩ := read_invalid h
    refine ⟨text, htext, fun n hn => ?_, rfl⟩
    have hok := read_ok.mpr (htext ▸ hn)
    cases h.symm.trans hok
  · rintro ⟨text, htext, hrefuses, rfl⟩
    cases h : f.read env with
    | ok n => exact absurd (htext ▸ read_ok.mp h) (hrefuses n)
    | error e =>
      obtain ⟨text', htext', rfl⟩ := read_invalid h
      cases htext.symm.trans htext'
      rfl

-- ---------------------------------------------------------------------------
-- All numbers
-- ---------------------------------------------------------------------------

/-- The numbers among the settings, in the order in which they are read. They have 16, 32, 64 and 64
bits. -/
def numbers : List Field :=
  [⟨"PORT", UInt16.size - 1, 3000⟩, ⟨"DB_MAX_CONNECTIONS", UInt32.size - 1, 5⟩,
    ⟨"DB_BUSY_TIMEOUT_MS", UInt64.size - 1, 5000⟩, ⟨"REQUEST_TIMEOUT_SECS", UInt64.size - 1, 10⟩]

def AllGive (env : Environment) (values : List Nat) : Prop :=
  List.Forall₂ (fun f n => f.Gives n (env.lookup f.name)) numbers values

def FirstRefused (env : Environment) (name text : String) : Prop :=
  ∃ before f after, numbers = before ++ f :: after ∧
    (∀ g ∈ before, ∃ n, g.Gives n (env.lookup g.name)) ∧
    f.name = name ∧ env.lookup name = some text ∧ f.Refuses text

theorem allGive_iff : numbers.mapM (·.read env) = .ok values ↔ AllGive env values := by
  simp only [mapM_ok, Field.read_ok, AllGive]

theorem firstRefused_iff : numbers.mapM (·.read env) = .error (.invalid name text) ↔
    FirstRefused env name text := by
  simp only [mapM_error, Field.read_ok, Field.read_error, FirstRefused]
  grind

theorem numbers_eq :
    numbers = [.port, .maxConnections, .busyTimeoutMs, .requestTimeoutSecs] := rfl

theorem read_of_error (h : numbers.mapM (·.read env) = .error e) : read hasVolume env = .error e := by
  simp only [numbers_eq, mapM_cons_error] at h
  rcases h with h | ⟨⟨p, hp⟩, h | ⟨⟨c, hc⟩, h | ⟨⟨b, hb⟩, h | ⟨-, h⟩⟩⟩⟩
  · rw [read, h]
    rfl
  · rw [read, hp, ok_bind, h]
    rfl
  · rw [read, hp, ok_bind, hc, ok_bind, h]
    rfl
  · rw [read, hp, ok_bind, hc, ok_bind, hb, ok_bind, h]
    rfl
  · cases h

theorem read_of_allGive (h : AllGive env [p, c, b, t]) : read hasVolume env =
    if c = 0 then .error (.zero "DB_MAX_CONNECTIONS")
    else if t = 0 then .error (.zero "REQUEST_TIMEOUT_SECS")
    else .ok ⟨readDatabaseUrl hasVolume env, p, c, b, t⟩ := by
  simp only [← allGive_iff, numbers_eq, mapM_ok, List.forall₂_cons] at h
  obtain ⟨hp, hc, hb, ht, -⟩ := h
  rw [read, hp, ok_bind, hc, ok_bind, hb, ok_bind, ht, ok_bind]
  rfl

theorem read_cases (env : Environment) :
    (∃ name text, numbers.mapM (·.read env) = .error (.invalid name text)) ∨
      ∃ p c b t, AllGive env [p, c, b, t] := by
  cases h : numbers.mapM (·.read env) with
  | error e =>
    obtain ⟨-, f, -, -, -, hf⟩ := mapM_error.mp h
    obtain ⟨text, -, rfl⟩ := Field.read_invalid hf
    exact .inl ⟨_, _, rfl⟩
  | ok values =>
    have hgive := allGive_iff.mp h
    match values, hgive.length_eq with
    | [p, c, b, t], _ => exact .inr ⟨p, c, b, t, hgive⟩

theorem read_invalid_iff : read hasVolume env = .error (.invalid name text) ↔ FirstRefused env name text := by
  rw [← firstRefused_iff]
  refine ⟨fun h => ?_, read_of_error⟩
  rcases read_cases env with ⟨name', text', hrefused⟩ | ⟨p, c, b, t, hgive⟩
  · cases h.symm.trans (read_of_error hrefused)
    exact hrefused
  · rw [read_of_allGive hgive] at h
    grind

theorem read_zero_iff : read hasVolume env = .error (.zero name) ↔ ∃ p c b t, AllGive env [p, c, b, t] ∧
    (c = 0 ∧ name = "DB_MAX_CONNECTIONS" ∨ 0 < c ∧ t = 0 ∧ name = "REQUEST_TIMEOUT_SECS") := by
  constructor
  · intro h
    rcases read_cases env with ⟨name', text', hrefused⟩ | ⟨p, c, b, t, hgive⟩
    · cases h.symm.trans (read_of_error hrefused)
    · rw [read_of_allGive hgive] at h
      exact ⟨p, c, b, t, hgive, by grind⟩
  · rintro ⟨p, c, b, t, hgive, hzero⟩
    rw [read_of_allGive hgive]
    grind

theorem read_ok_iff : read hasVolume env = .ok s ↔
    AllGive env [s.port, s.maxConnections, s.busyTimeoutMs, s.requestTimeoutSecs] ∧
      s.databaseUrl = readDatabaseUrl hasVolume env ∧ 0 < s.maxConnections ∧ 0 < s.requestTimeoutSecs := by
  constructor
  · intro h
    rcases read_cases env with ⟨name, text, hrefused⟩ | ⟨p, c, b, t, hgive⟩
    · cases h.symm.trans (read_of_error hrefused)
    · rw [read_of_allGive hgive] at h
      grind
  · rintro ⟨hgive, hurl, hc, ht⟩
    rw [read_of_allGive hgive, if_neg (Nat.ne_of_gt hc), if_neg (Nat.ne_of_gt ht), ← hurl]

-- ---------------------------------------------------------------------------
-- The variables
-- ---------------------------------------------------------------------------

def standing (entries : List (String × ByteArray)) : Option String → Environment
  | none => readable entries
  | some text => EnvFile.load (readable entries) text

theorem ofVariables_eq (entries : List (String × ByteArray)) (file : Option String)
    (hasVolume : Bool) :
    ofVariables entries file hasVolume = read hasVolume (standing entries file) := by
  cases file <;> rfl

theorem lookup_readable {entries : List (String × ByteArray)} (h : (entries.map Prod.fst).Nodup)
    (name : String) :
    (readable entries).lookup name = (entries.lookup name).bind String.fromUTF8? := by
  induction entries with
  | nil => rfl
  | cons entry rest ih =>
    obtain ⟨entryName, bytes⟩ := entry
    obtain ⟨hnew, hrest⟩ := List.nodup_cons.mp h
    have ih : (readable rest).lookup name = (rest.lookup name).bind String.fromUTF8? := ih hrest
    cases htext : String.fromUTF8? bytes with
    | some text =>
      have hcons : readable ((entryName, bytes) :: rest) = (entryName, text) :: readable rest := by
        simp [readable, htext]
      rw [hcons, List.lookup_cons, List.lookup_cons]
      split
      · exact htext.symm
      · exact ih
    | none =>
      have hcons : readable ((entryName, bytes) :: rest) = readable rest := by
        simp [readable, htext]
      rw [hcons, ih, List.lookup_cons]
      split
      · next heq =>
        -- No other entry has the name.
        obtain rfl := eq_of_beq heq
        have hnone : rest.lookup name = none := by
          refine List.lookup_eq_none_iff.mpr fun other hother => bne_iff_ne.mpr ?_
          rintro rfl
          exact hnew (List.mem_map.mpr ⟨other, hother, rfl⟩)
        rw [hnone, Option.bind_none, Option.bind_some, htext]
      · rfl

/-- What is read from variables and an environment file. A variable that is not UTF-8 is absent. The
settings are refused for the first variable that gives no number, with its text; else for a zero; and
else they are what the variables give. So each that is accepted allows a connection and time for a
request. -/
theorem settings_decided (entries : List (String × ByteArray)) (file : Option String)
    (hasVolume : Bool) :
    ((entries.map Prod.fst).Nodup → ∀ name,
      (readable entries).lookup name = (entries.lookup name).bind String.fromUTF8?) ∧
    (∀ name text, ofVariables entries file hasVolume = .error (.invalid name text) ↔
      FirstRefused (standing entries file) name text) ∧
    (∀ name, ofVariables entries file hasVolume = .error (.zero name) ↔
      ∃ port connections busyMs timeoutSecs,
        AllGive (standing entries file) [port, connections, busyMs, timeoutSecs] ∧
          (connections = 0 ∧ name = "DB_MAX_CONNECTIONS" ∨
            0 < connections ∧ timeoutSecs = 0 ∧ name = "REQUEST_TIMEOUT_SECS")) ∧
    ∀ s, ofVariables entries file hasVolume = .ok s ↔
      AllGive (standing entries file)
          [s.port, s.maxConnections, s.busyTimeoutMs, s.requestTimeoutSecs] ∧
        s.databaseUrl = readDatabaseUrl hasVolume (standing entries file) ∧
        0 < s.maxConnections ∧ 0 < s.requestTimeoutSecs := by
  simp only [ofVariables_eq]
  exact ⟨lookup_readable, fun _ _ => read_invalid_iff, fun _ => read_zero_iff, fun _ => read_ok_iff⟩

/-- Bytes that are no text leave the port at its default, and leading zeros are no digits too many. -/
theorem leading_zeros_given :
    let entries : List (String × ByteArray) := [("PORT", ⟨#[0xFF]⟩),
      ("DB_MAX_CONNECTIONS", "\u00a0+00000000012 ".toUTF8)]
    (entries.map Prod.fst).Nodup ∧ ofVariables entries none false =
      .ok ⟨"sqlite:./data/convo.db", 3000, 12, 5000, 10⟩ := by
  intro entries
  obtain ⟨hreadable, -, -, haccepted⟩ := settings_decided entries none false
  have hnames : (entries.map Prod.fst).Nodup := by decide
  have hvalue (name : String) (value : Option String)
      (h : (entries.lookup name).bind String.fromUTF8? = value) :
      (standing entries none).lookup name = value := (hreadable hnames name).trans h
  have hport := hvalue "PORT" none (by decide +kernel)
  have hconnections := hvalue "DB_MAX_CONNECTIONS" (some "\u00a0+00000000012 ")
    (by decide +kernel)
  have hbusy := hvalue "DB_BUSY_TIMEOUT_MS" none (by decide +kernel)
  have htimeout := hvalue "REQUEST_TIMEOUT_SECS" none (by decide +kernel)
  have htrim : Text.trim "\u00a0+00000000012 " = "+00000000012" := by
    decide +kernel
  have htwelve : Numeral.Writes "+00000000012".toList 12 :=
    ⟨"00000000012".toList, ⟨by decide, List.all_eq_true.mp (by decide), by decide⟩, .inr (by decide)⟩
  refine ⟨hnames, (haccepted _).mpr ⟨.cons ?_ (.cons ?_ (.cons ?_ (.cons ?_ .nil))), ?_⟩⟩
  · simp [Field.Gives, hport]
  · simpa [Field.Gives, hconnections, htrim] using htwelve
  · simp [Field.Gives, hbusy]
  · simp [Field.Gives, htimeout]
  · decide +kernel

end Settings
end Parley
