import Bookings.Json.Reader

namespace Bookings.Json

inductive Bracket where
  | array
  | object
deriving DecidableEq

/-- The text behind the rest of a string, in which `digits` hexadecimal digits come next. -/
def skipString? : (digits : Nat) → List Char → Option (List Char)
  | _, [] => none
  | digits + 1, c :: rest => if (hexValue? c).isSome then skipString? digits rest else none
  | 0, '\\' :: 'u' :: rest => skipString? 4 rest
  | 0, '\\' :: c :: rest => if (escaped? c).isSome then skipString? 0 rest else none
  | 0, c :: rest =>
    if c.toNat = 34 then some rest
    else if c.toNat < 32 then none
    else skipString? 0 rest

def skipKey? (cs : List Char) : Option (List Char) :=
  match skipSpace cs with
  | '\x22' :: rest => do
    match skipSpace (← skipString? 0 rest) with
    | ':' :: rest => return rest
    | _ => none
  | _ => none

def skipScalar? : List Char → Option (List Char)
  | 'n' :: rest => expect? ['u', 'l', 'l'] rest
  | 't' :: rest => expect? ['r', 'u', 'e'] rest
  | 'f' :: rest => expect? ['a', 'l', 's', 'e'] rest
  | '\x22' :: rest => skipString? 0 rest
  | cs => (readLiteral? cs).map fun (_, rest) => rest

/-- Behind a value: closes brackets up to a comma. Returns the brackets still open, with the next
value in front of the text; no bracket is open when all are closed. -/
def skipClosing? : List Bracket → List Char → Option (List Bracket × List Char)
  | [], cs => some ([], cs)
  | .array :: outer, cs =>
    match skipSpace cs with
    | ']' :: rest => skipClosing? outer rest
    | ',' :: rest => some (.array :: outer, rest)
    | _ => none
  | .object :: outer, cs =>
    match skipSpace cs with
    | '\x7d' :: rest => skipClosing? outer rest
    | ',' :: rest => (skipKey? rest).map (.object :: outer, ·)
    | _ => none

/-- Before a value: passes over a scalar or an empty bracket with what closes behind it, or opens a
bracket with something inside. -/
def skipOpening? (outer : List Bracket) (cs : List Char) : Option (List Bracket × List Char) :=
  match skipSpace cs with
  | '[' :: rest =>
    match skipSpace rest with
    | ']' :: rest => skipClosing? outer rest
    | rest => some (.array :: outer, rest)
  | '\x7b' :: rest =>
    match skipSpace rest with
    | '\x7d' :: rest => skipClosing? outer rest
    | rest => (skipKey? rest).map (.object :: outer, ·)
  | cs => (skipScalar? cs).bind (skipClosing? outer)

def skipValue? : (fuel : Nat) → List Bracket → List Char → Option (List Char)
  | 0, _, _ => none
  | fuel + 1, outer, cs =>
    match skipOpening? outer cs with
    | some ([], rest) => some rest
    | some (outer, rest) => skipValue? fuel outer rest
    | none => none

end Bookings.Json
