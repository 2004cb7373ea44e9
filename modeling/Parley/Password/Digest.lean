import Parley.Password.Blowfish

/-!
# Digests of passwords

The digest of a password under a salt and a cost: a fixed text, enciphered under a schedule into
which password and salt have been put as many times as two to the power of the cost.
-/

namespace Parley.Password

open Schedule (Mask)

def wordOfBytes (a b c d : UInt8) : UInt32 :=
  (a.toUInt32 <<< 24) ||| (b.toUInt32 <<< 16) ||| (c.toUInt32 <<< 8) ||| d.toUInt32

def cycledWord (bytes : Array UInt8) (i : Nat) : UInt32 :=
  let byte (j : Nat) := bytes.getD (j % bytes.size) 0
  wordOfBytes (byte (4 * i)) (byte (4 * i + 1)) (byte (4 * i + 2)) (byte (4 * i + 3))

def keyWords (bytes : Array UInt8) : Vector UInt32 18 := .ofFn fun i => cycledWord bytes i

/-- The key of a password: its bytes and a zero byte, of which the first seventy-two count. -/
def keyBytes (password : String) : Array UInt8 := (password.toUTF8.data.push 0).take 72

def strengthen (password salt : Vector UInt32 18) : Nat → Schedule → Schedule
  | 0, k => k
  | n + 1, k => strengthen password salt n ((k.expand password).expand salt)

def schedule (cost : Nat) (salt : Array UInt8) (password : String) : Schedule :=
  let key := keyWords (keyBytes password)
  let mask : Mask := ⟨cycledWord salt 0, cycledWord salt 1, cycledWord salt 2, cycledWord salt 3⟩
  strengthen key (keyWords salt) (Nat.pow 2 cost) (Schedule.initial.expandSalted key mask)

def encipherTimes (k : Schedule) : Nat → UInt32 → UInt32 → UInt32 × UInt32
  | 0, l, r => (l, r)
  | n + 1, l, r =>
    let (l, r) := k.encipher l r
    encipherTimes k n l r

def digestText : Array UInt8 := "OrpheanBeholderScryDoubt".toUTF8.data

def bytesOfWord (w : UInt32) : List UInt8 :=
  [(w >>> 24).toUInt8, (w >>> 16).toUInt8, (w >>> 8).toUInt8, w.toUInt8]

/-- The digest: three pairs of words, without the last of their bytes. -/
def digest (cost : Nat) (salt : List UInt8) (password : String) : List UInt8 :=
  let k := schedule cost salt.toArray password
  let pair (i : Nat) :=
    let word (j : Nat) := cycledWord digestText j
    let (l, r) := encipherTimes k 64 (word (2 * i)) (word (2 * i + 1))
    bytesOfWord l ++ bytesOfWord r
  (pair 0 ++ pair 1 ++ pair 2).take 23

end Parley.Password
