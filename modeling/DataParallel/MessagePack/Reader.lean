import DataParallel.MessagePack.Writer

/-!
# Reading packed messages

A message is one value and nothing behind it.  Every value begins with a head, which holds a
plain value or announces how many items or entries follow.  Keys are texts or byte strings, a
later entry of a key replaces an earlier one, and nesting is limited.  A list may not announce
more items than the message has bytes, nor a record more entries than half of them.
-/

namespace DataParallel.MessagePack

/-- What stands at the beginning of a value. -/
inductive Head where
  | plain (v : Value)
  | items (count : Nat)
  | entries (count : Nat)

/-- The deepest nesting of lists and records. -/
def maxDepth : Nat := 1024

/-- The first `n` bytes and the rest. -/
def split (n : Nat) (bs : List UInt8) : Except Fault (List UInt8 × List UInt8) :=
  if n ≤ bs.length then .ok (bs.take n, bs.drop n) else .error .badValue

/-- A number of `count` bytes and the rest. -/
def number (count : Nat) (bs : List UInt8) : Except Fault (Nat × List UInt8) := do
  let (digits, rest) ← split count bs
  return (ofBigEndian digits, rest)

/-- A text of `n` bytes. -/
def text (n : Nat) (bs : List UInt8) : Except Fault (Head × List UInt8) := do
  let (content, rest) ← split n bs
  match String.fromUTF8? ⟨content.toArray⟩ with
  | some s => return (.plain (.text s), rest)
  | none => throw .badText

/-- A byte string of `n` bytes. -/
def blob (n : Nat) (bs : List UInt8) : Except Fault (Head × List UInt8) := do
  let (content, rest) ← split n bs
  return (.plain (.bytes content), rest)

/-- The integer that a number of `count` bytes stands for in two's complement. -/
def signed (count n : Nat) : Int :=
  if n < 256 ^ count / 2 then n else (n : Int) - 256 ^ count

/-- The point in time that the bytes of a timestamp stand for. -/
def timestamp (content : List UInt8) : Except Fault Value :=
  let n := ofBigEndian content
  let (seconds, nanoseconds) : Int × Nat :=
    if content.length = 12 then (signed 8 (n % 2 ^ 64), n / 2 ^ 64)
    else if content.length = 8 then ((n % 2 ^ 34 : Nat), n / 2 ^ 34)
    else (n, 0)
  if content.length ∈ [4, 8, 12] ∧ nanoseconds < 10 ^ 9 then
    .ok (.timestamp seconds nanoseconds)
  else .error .badValue

/-- A typed blob of `n` bytes behind its type.  The negative types are reserved, and all but that
of timestamps are refused. -/
def extension (n : Nat) (bs : List UInt8) : Except Fault (Head × List UInt8) := do
  let (code, rest) ← number 1 bs
  let (content, rest) ← split n rest
  if signed 1 code = -1 then return (.plain (← timestamp content), rest)
  else if signed 1 code < 0 then throw .badValue
  else return (.plain (.extension (signed 1 code) content), rest)

/-- An unsigned integer of `count` bytes. -/
def unsignedInt (count : Nat) (bs : List UInt8) : Except Fault (Head × List UInt8) := do
  let (n, rest) ← number count bs
  return (.plain (.int n), rest)

/-- An integer with sign of `count` bytes. -/
def signedInt (count : Nat) (bs : List UInt8) : Except Fault (Head × List UInt8) := do
  let (n, rest) ← number count bs
  return (.plain (.int (signed count n)), rest)

/-- A float in the given format. -/
def float (f : Number.BinaryFormat) (bs : List UInt8) : Except Fault (Head × List UInt8) := do
  let (n, rest) ← number ((f.precision + f.exponentBits) / 8) bs
  return (.plain (.float (Float.ofBits (UInt64.ofNat (f.convert .binary64 n)))), rest)

/-- Reads the head of a value. -/
def head : List UInt8 → Except Fault (Head × List UInt8)
  | [] => .error .badValue
  | tag :: rest =>
    let t := tag.toNat
    if t < 0x80 then .ok (.plain (.int t), rest)
    else if t < 0x90 then .ok (.entries (t - 0x80), rest)
    else if t < 0xA0 then .ok (.items (t - 0x90), rest)
    else if t < 0xC0 then text (t - 0xA0) rest
    else if 0xE0 ≤ t then .ok (.plain (.int ((t : Int) - 0x100)), rest)
    else
      match t with
      | 0xC0 => .ok (.plain .null, rest)
      | 0xC2 => .ok (.plain (.bool false), rest)
      | 0xC3 => .ok (.plain (.bool true), rest)
      | 0xC4 => do let (n, rest) ← number 1 rest; blob n rest
      | 0xC5 => do let (n, rest) ← number 2 rest; blob n rest
      | 0xC6 => do let (n, rest) ← number 4 rest; blob n rest
      | 0xC7 => do let (n, rest) ← number 1 rest; extension n rest
      | 0xC8 => do let (n, rest) ← number 2 rest; extension n rest
      | 0xC9 => do let (n, rest) ← number 4 rest; extension n rest
      | 0xCA => float .binary32 rest
      | 0xCB => float .binary64 rest
      | 0xCC => unsignedInt 1 rest
      | 0xCD => unsignedInt 2 rest
      | 0xCE => unsignedInt 4 rest
      | 0xCF => unsignedInt 8 rest
      | 0xD0 => signedInt 1 rest
      | 0xD1 => signedInt 2 rest
      | 0xD2 => signedInt 4 rest
      | 0xD3 => signedInt 8 rest
      | 0xD4 => extension 1 rest
      | 0xD5 => extension 2 rest
      | 0xD6 => extension 4 rest
      | 0xD7 => extension 8 rest
      | 0xD8 => extension 16 rest
      | 0xD9 => do let (n, rest) ← number 1 rest; text n rest
      | 0xDA => do let (n, rest) ← number 2 rest; text n rest
      | 0xDB => do let (n, rest) ← number 4 rest; text n rest
      | 0xDC => do let (n, rest) ← number 2 rest; return (.items n, rest)
      | 0xDD => do let (n, rest) ← number 4 rest; return (.items n, rest)
      | 0xDE => do let (n, rest) ← number 2 rest; return (.entries n, rest)
      | 0xDF => do let (n, rest) ← number 4 rest; return (.entries n, rest)
      | _ => .error .badValue

/-- Reads a given number of values. -/
def readItems (one : List UInt8 → Except Fault (Value × List UInt8)) :
    Nat → List UInt8 → Except Fault (List Value × List UInt8)
  | 0, bs => .ok ([], bs)
  | count + 1, bs => do
    let (v, rest) ← one bs
    let (vs, rest) ← readItems one count rest
    return (v :: vs, rest)

/-- Whether a value may be a key of a message. -/
def isMessageKey : Value → Bool
  | .text _ => true
  | .bytes _ => true
  | _ => false

/-- Reads a given number of entries into a record. -/
def readEntries (one : List UInt8 → Except Fault (Value × List UInt8)) :
    Nat → List (Value × Value) → List UInt8 → Except Fault (List (Value × Value) × List UInt8)
  | 0, es, bs => .ok (es, bs)
  | count + 1, es, bs => do
    let (k, rest) ← one bs
    let (v, rest) ← one rest
    if isMessageKey k then readEntries one count (Value.insert k v es) rest
    else throw .badValue

/-- Refuses an announced count beyond a limit. -/
def checkCount (limit count : Nat) : Except Fault Unit :=
  if limit < count then .error .badValue else .ok ()

/-- Reads a value of a message of `size` bytes, whose lists and records are nested to the given
depth at most. -/
def readValue (size : Nat) : Nat → List UInt8 → Except Fault (Value × List UInt8)
  | 0, bs => do
    match ← head bs with
    | (.plain v, rest) => return (v, rest)
    | _ => throw .badValue
  | depth + 1, bs => do
    match ← head bs with
    | (.plain v, rest) => return (v, rest)
    | (.items count, rest) => do
      checkCount size count
      let (vs, rest) ← readItems (readValue size depth) count rest
      return (.list vs, rest)
    | (.entries count, rest) => do
      checkCount (size / 2) count
      let (es, rest) ← readEntries (readValue size depth) count [] rest
      return (.record es, rest)

/-- Reads a message. -/
def read (bs : List UInt8) : Except Fault Value := do
  match ← readValue bs.length maxDepth bs with
  | (v, []) => return v
  | _ => throw .badValue

end DataParallel.MessagePack
