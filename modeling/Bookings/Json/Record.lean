import Bookings.Json.Skip
import Bookings.Id

namespace Bookings.Json

def membersNamed (name : String) (members : List (String × Json)) : List Json :=
  members.filterMap fun (key, v) => if key = name then some v else none

def field? (members : List (String × Json)) (name : String) : Option (Option Json) :=
  match membersNamed name members with
  | [] => some none
  | [v] => some (some v)
  | _ => none

def itemFields? : (names : List String) → List Json → Option (List (Option Json))
  | [], [] => some []
  | [], _ :: _ => none
  | _ :: names, [] => (itemFields? names []).map (none :: ·)
  | _ :: names, v :: rest => (itemFields? names rest).map (some v :: ·)

def fields? (names : List String) : Json → Option (List (Option Json))
  | .obj members => names.mapM (field? members)
  | .arr items => itemFields? names items
  | _ => none

/-- The members of an object from here to its end that have one of the names, behind those already
read, latest first; all others are passed over. -/
def readNamed? (names : List String) : (fuel : Nat) → (read : List (String × Json)) → List Char →
    Option (List (String × Json) × List Char)
  | 0, _, _ => none
  | fuel + 1, read, cs =>
    match readKey? fuel cs with
    | none => none
    | some (key, rest) =>
      let found :=
        if names.contains key then
          (readValue? fuel (maxDepth - 1) rest).map fun (v, rest) => ((key, v) :: read, rest)
        else (skipValue? fuel [] rest).map (read, ·)
      match found with
      | none => none
      | some (read, rest) =>
        match skipSpace rest with
        | ',' :: rest => readNamed? names fuel read rest
        | '\x7d' :: rest => some (read.reverse, rest)
        | _ => none

def readObject? (names : List String) (cs : List Char) :
    Option (List (String × Json) × List Char) :=
  match skipSpace cs with
  | '\x7d' :: rest => some ([], rest)
  | cs => readNamed? names (2 * cs.length + 2) [] cs

/-- The fields of the record that a whole text is, in their fixed order. -/
def fieldsOfText? (names : List String) (s : String) : Option (List (Option Json)) :=
  match skipSpace s.toList with
  | '\x7b' :: cs => do
    let (members, rest) ← readObject? names cs
    if (skipSpace rest).isEmpty then names.mapM (field? members) else none
  | cs => (ofChars? cs).bind (fields? names)

def bool? : Json → Option Bool
  | .bool b => some b
  | _ => none

def string? : Json → Option String
  | .str s => some s
  | _ => none

def natBelow? (bound : Nat) : Json → Option Nat
  | .int (.ofNat n) => if n < bound then some n else none
  | _ => none

def byte? (v : Json) : Option UInt8 := (natBelow? 256 v).map UInt8.ofNat

def word? (v : Json) : Option UInt32 := (natBelow? 4294967296 v).map UInt32.ofNat

def int64? : Json → Option Int64
  | .int n =>
    if -9223372036854775808 ≤ n ∧ n < 9223372036854775808 then some (Int64.ofInt n) else none
  | _ => none

def id? (v : Json) : Option Id := (string? v).bind Id.ofText?

def single? : Json → Option Single
  | .int n => some (Single.ofInt n)
  | .float x => some (Single.ofDouble x)
  | _ => none

def required {α : Type} (read : Json → Option α) : Option Json → Option α
  | some v => read v
  | none => none

def defaulted {α : Type} (read : Json → Option α) (missing : α) : Option Json → Option α
  | some v => read v
  | none => some missing

def optional {α : Type} (read : Json → Option α) : Option Json → Option (Option α)
  | some .null => some none
  | some v => (read v).map some
  | none => some none

end Bookings.Json
