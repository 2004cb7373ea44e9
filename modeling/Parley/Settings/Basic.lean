import Parley.Settings.EnvFile
import Parley.Text.Numeral
import Parley.Text.Quoted

/-!
# Settings

What the server is told by its environment: where the database is, and four numbers. A number that
is absent or blank has its default, and so has the database's place, which depends on whether a volume
is mounted at `/data`.
-/

namespace Parley

structure Settings where
  databaseUrl : String
  port : Nat
  maxConnections : Nat
  busyTimeoutMs : Nat
  requestTimeoutSecs : Nat
  deriving DecidableEq, Repr

namespace Settings

structure Field where
  name : String
  limit : Nat
  default : Nat

def Field.port : Field := ⟨"PORT", 0xFFFF, 3000⟩
def Field.maxConnections : Field := ⟨"DB_MAX_CONNECTIONS", 0xFFFFFFFF, 5⟩
def Field.busyTimeoutMs : Field := ⟨"DB_BUSY_TIMEOUT_MS", 0xFFFFFFFFFFFFFFFF, 5000⟩
def Field.requestTimeoutSecs : Field := ⟨"REQUEST_TIMEOUT_SECS", 0xFFFFFFFFFFFFFFFF, 10⟩

inductive Fault where
  | invalid (name value : String)
  | zero (name : String)
  deriving DecidableEq, Repr

def Fault.message : Fault → String
  | .invalid name value => s!"invalid value for {name}: {Text.quoted value}"
  | .zero name => s!"{name} must be greater than zero"

/-- The value of a number's variable. -/
def Field.read (f : Field) (env : Environment) : Except Fault Nat :=
  match env.lookup f.name with
  | none => .ok f.default
  | some value =>
    if Text.allBlank value then .ok f.default
    else (Numeral.readNat f.limit (Text.trim value).toList).mapError fun _ => .invalid f.name value

def defaultDatabaseUrl (hasVolume : Bool) : String :=
  if hasVolume then "sqlite:/data/convo.db" else "sqlite:./data/convo.db"

/-- The database's place; an empty variable counts as absent. -/
def readDatabaseUrl (hasVolume : Bool) (env : Environment) : String :=
  match env.lookup "DATABASE_URL" with
  | none => defaultDatabaseUrl hasVolume
  | some "" => defaultDatabaseUrl hasVolume
  | some url => url

/-- Reads the settings. Numbers are read before any of them is compared with zero. -/
def read (hasVolume : Bool) (env : Environment) : Except Fault Settings := do
  let port ← Field.port.read env
  let maxConnections ← Field.maxConnections.read env
  let busyTimeoutMs ← Field.busyTimeoutMs.read env
  let requestTimeoutSecs ← Field.requestTimeoutSecs.read env
  if maxConnections = 0 then throw (.zero Field.maxConnections.name)
  if requestTimeoutSecs = 0 then throw (.zero Field.requestTimeoutSecs.name)
  return { databaseUrl := readDatabaseUrl hasVolume env, port, maxConnections, busyTimeoutMs,
           requestTimeoutSecs }

/-- The variables whose values are text; a value that is not UTF-8 counts as absent. -/
def readable (entries : List (String × ByteArray)) : Environment :=
  entries.filterMap fun (name, bytes) => (String.fromUTF8? bytes).map (name, ·)

def ofVariables (entries : List (String × ByteArray)) (file : Option String)
    (hasVolume : Bool := false) : Except Fault Settings :=
  let env := readable entries
  read hasVolume (match file with
    | some text => EnvFile.load env text
    | none => env)

end Settings
end Parley
