import Bookings.Id
import Bookings.Number.Binary

namespace Bookings.Log

def wordBytes : (count n : Nat) → List UInt8
  | 0, _ => []
  | count + 1, n => UInt8.ofNat n :: wordBytes count (n / 256)

def readWord? : (count : Nat) → List UInt8 → Option (Nat × List UInt8)
  | 0, bytes => some (0, bytes)
  | _ + 1, [] => none
  | count + 1, b :: rest =>
    match readWord? count rest with
    | some (n, rest) => some (b.toNat + 256 * n, rest)
    | none => none

def takeBytes? (count : Nat) (bytes : List UInt8) : Option (List UInt8 × List UInt8) :=
  let taken := bytes.take count
  if taken.length = count then some (taken, bytes.drop count) else none

def readByte? : List UInt8 → Option (UInt8 × List UInt8)
  | [] => none
  | b :: rest => some (b, rest)

def word32Bytes (n : UInt32) : List UInt8 := wordBytes 4 n.toNat

def readWord32? (bytes : List UInt8) : Option (UInt32 × List UInt8) :=
  match readWord? 4 bytes with
  | some (n, rest) => some (UInt32.ofNat n, rest)
  | none => none

def intBytes (n : Int64) : List UInt8 := wordBytes 8 n.toUInt64.toNat

def readInt? (bytes : List UInt8) : Option (Int64 × List UInt8) :=
  match readWord? 8 bytes with
  | some (n, rest) => some ((UInt64.ofNat n).toInt64, rest)
  | none => none

def singleBytes (x : Single) : List UInt8 := word32Bytes x.bits

def readSingle? (bytes : List UInt8) : Option (Single × List UInt8) :=
  match readWord32? bytes with
  | some (n, rest) => some (⟨n⟩, rest)
  | none => none

def textBytes (s : String) : List UInt8 :=
  wordBytes 8 s.utf8ByteSize ++ s.toByteArray.data.toList

def readText? (bytes : List UInt8) : Option (String × List UInt8) :=
  match readWord? 8 bytes with
  | none => none
  | some (size, rest) =>
    match takeBytes? size rest with
    | none => none
    | some (taken, rest) =>
      match String.fromUTF8? ⟨taken.toArray⟩ with
      | some s => some (s, rest)
      | none => none

def idBytes (i : Id) : List UInt8 := textBytes i.text

def readId? (bytes : List UInt8) : Option (Id × List UInt8) :=
  match readText? bytes with
  | none => none
  | some (s, rest) =>
    match Id.ofText? s with
    | some i => some (i, rest)
    | none => none

def optionalBytes {α : Type} (write : α → List UInt8) : Option α → List UInt8
  | none => [0]
  | some a => 1 :: write a

def readOptional? {α : Type} (read : List UInt8 → Option (α × List UInt8)) :
    List UInt8 → Option (Option α × List UInt8)
  | [] => none
  | b :: rest =>
    if b = 0 then some (none, rest)
    else if b = 1 then
      match read rest with
      | some (a, rest) => some (some a, rest)
      | none => none
    else none

def listBytes {α : Type} (write : α → List UInt8) (xs : List α) : List UInt8 :=
  wordBytes 8 xs.length ++ xs.flatMap write

def readItems? {α : Type} (read : List UInt8 → Option (α × List UInt8)) :
    (count : Nat) → (done : List α) → List UInt8 → Option (List α × List UInt8)
  | 0, done, bytes => some (done.reverse, bytes)
  | count + 1, done, bytes =>
    match read bytes with
    | some (a, rest) => readItems? read count (a :: done) rest
    | none => none

def readList? {α : Type} (read : List UInt8 → Option (α × List UInt8)) (bytes : List UInt8) :
    Option (List α × List UInt8) :=
  match readWord? 8 bytes with
  | some (count, rest) => readItems? read count [] rest
  | none => none

end Bookings.Log
