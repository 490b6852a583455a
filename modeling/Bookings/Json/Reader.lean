import Bookings.Json.Value

namespace Bookings.Json

/-- Most arrays and objects around a value, itself included. -/
def maxDepth : Nat := 127

def isSpace (c : Char) : Bool :=
  c.toNat == 32 || c.toNat == 9 || c.toNat == 10 || c.toNat == 13

def skipSpace (cs : List Char) : List Char := cs.dropWhile isSpace

def digit? (c : Char) : Option Nat :=
  if 48 ≤ c.toNat && c.toNat ≤ 57 then some (c.toNat - 48) else none

def readDigits (read : List Nat) : List Char → List Nat × List Char
  | [] => (read.reverse, [])
  | c :: rest =>
    match digit? c with
    | some d => readDigits (d :: read) rest
    | none => (read.reverse, c :: rest)

def ofDigits (ds : List Nat) : Nat := ds.foldl (fun n d => n * 10 + d) 0

/-- The digits before the point: a zero alone, or any that start with another digit. -/
def readWhole? (cs : List Char) : Option (List Nat × List Char) :=
  match readDigits [] cs with
  | ([], _) => none
  | (0 :: _ :: _, _) => none
  | found => some found

def readFraction? : List Char → Option (Option (List Nat) × List Char)
  | '.' :: rest =>
    match readDigits [] rest with
    | ([], _) => none
    | (ds, rest) => some (some ds, rest)
  | cs => some (none, cs)

def readSign : List Char → Bool × List Char
  | '-' :: rest => (true, rest)
  | '+' :: rest => (false, rest)
  | cs => (false, cs)

def readPower? (cs : List Char) : Option (Option Int × List Char) :=
  let (negative, cs) := readSign cs
  match readDigits [] cs with
  | ([], _) => none
  | (ds, rest) => some (some (if negative then -ofDigits ds else ofDigits ds), rest)

def readExponent? : List Char → Option (Option Int × List Char)
  | 'e' :: rest => readPower? rest
  | 'E' :: rest => readPower? rest
  | cs => some (none, cs)

def readMagnitude? (negative : Bool) (cs : List Char) : Option (NumberLiteral × List Char) := do
  let (whole, cs) ← readWhole? cs
  let (fraction, cs) ← readFraction? cs
  let (exponent, cs) ← readExponent? cs
  return (⟨negative, whole, fraction, exponent⟩, cs)

def readLiteral? : List Char → Option (NumberLiteral × List Char)
  | '-' :: rest => readMagnitude? true rest
  | cs => readMagnitude? false cs

def readNumber? (cs : List Char) : Option (Json × List Char) := do
  let (literal, cs) ← readLiteral? cs
  let numeral ← Numeral.ofLiteral? literal
  return (ofNumeral numeral, cs)

def hexValue? (c : Char) : Option Nat :=
  let n := c.toNat
  if 48 ≤ n && n ≤ 57 then some (n - 48)
  else if 65 ≤ n && n ≤ 70 then some (n - 55)
  else if 97 ≤ n && n ≤ 102 then some (n - 87)
  else none

def readUnit? : List Char → Option (Nat × List Char)
  | a :: b :: c :: d :: rest => do
    let high := (← hexValue? a) * 16 + (← hexValue? b)
    let low := (← hexValue? c) * 16 + (← hexValue? d)
    return (high * 256 + low, rest)
  | _ => none

/-- The character of a numbered escape; two surrogates make one character. -/
def readNumbered? (cs : List Char) : Option (Char × List Char) := do
  let (high, rest) ← readUnit? cs
  if 0xDC00 ≤ high && high ≤ 0xDFFF then none
  else if 0xD800 ≤ high && high ≤ 0xDBFF then
    match rest with
    | '\\' :: 'u' :: rest =>
      let (low, rest) ← readUnit? rest
      if 0xDC00 ≤ low && low ≤ 0xDFFF then
        return (Char.ofNat (0x10000 + (high - 0xD800) * 1024 + (low - 0xDC00)), rest)
      else none
    | _ => none
  else return (Char.ofNat high, rest)

def escaped? (c : Char) : Option Char :=
  match c.toNat with
  | 34 => some c
  | 92 => some c
  | 47 => some c
  | 98 => some (Char.ofNat 8)
  | 102 => some (Char.ofNat 12)
  | 110 => some (Char.ofNat 10)
  | 114 => some (Char.ofNat 13)
  | 116 => some (Char.ofNat 9)
  | _ => none

def readEscape? : List Char → Option (Char × List Char)
  | 'u' :: rest => readNumbered? rest
  | c :: rest => (escaped? c).map (·, rest)
  | [] => none

/-- The rest of a string behind its first quotation mark, with the characters already read, latest
first; `fuel` bounds their number. -/
def readString? : (fuel : Nat) → (read : List Char) → List Char → Option (String × List Char)
  | 0, _, _ => none
  | _ + 1, _, [] => none
  | fuel + 1, read, c :: rest =>
    if c.toNat = 34 then some (String.ofList read.reverse, rest)
    else if c.toNat = 92 then
      match readEscape? rest with
      | some (c, rest) => readString? fuel (c :: read) rest
      | none => none
    else if c.toNat < 32 then none
    else readString? fuel (c :: read) rest

def expect? : (word : List Char) → List Char → Option (List Char)
  | [], cs => some cs
  | w :: word, c :: cs => if w = c then expect? word cs else none
  | _ :: _, [] => none

def readKey? (fuel : Nat) (cs : List Char) : Option (String × List Char) :=
  match skipSpace cs with
  | '\x22' :: rest => do
    let (key, rest) ← readString? fuel [] rest
    match skipSpace rest with
    | ':' :: rest => return (key, rest)
    | _ => none
  | _ => none

mutual

def readValue? : (fuel depth : Nat) → List Char → Option (Json × List Char)
  | 0, _, _ => none
  | fuel + 1, depth, cs =>
    match skipSpace cs with
    | 'n' :: rest => (expect? ['u', 'l', 'l'] rest).map (.null, ·)
    | 't' :: rest => (expect? ['r', 'u', 'e'] rest).map (.bool true, ·)
    | 'f' :: rest => (expect? ['a', 'l', 's', 'e'] rest).map (.bool false, ·)
    | '\x22' :: rest => (readString? fuel [] rest).map fun (s, rest) => (.str s, rest)
    | '[' :: rest =>
      match depth with
      | 0 => none
      | depth + 1 =>
        match skipSpace rest with
        | ']' :: rest => some (.arr [], rest)
        | rest => readItems? fuel depth [] rest
    | '\x7b' :: rest =>
      match depth with
      | 0 => none
      | depth + 1 =>
        match skipSpace rest with
        | '\x7d' :: rest => some (.obj [], rest)
        | rest => readMembers? fuel depth [] rest
    | cs => readNumber? cs

def readItems? : (fuel depth : Nat) → (read : List Json) → List Char → Option (Json × List Char)
  | 0, _, _, _ => none
  | fuel + 1, depth, read, cs =>
    match readValue? fuel depth cs with
    | none => none
    | some (v, rest) =>
      match skipSpace rest with
      | ',' :: rest => readItems? fuel depth (v :: read) rest
      | ']' :: rest => some (.arr (v :: read).reverse, rest)
      | _ => none

def readMembers? : (fuel depth : Nat) → (read : List (String × Json)) → List Char →
    Option (Json × List Char)
  | 0, _, _, _ => none
  | fuel + 1, depth, read, cs =>
    match readKey? fuel cs with
    | none => none
    | some (key, rest) =>
      match readValue? fuel depth rest with
      | none => none
      | some (v, rest) =>
        match skipSpace rest with
        | ',' :: rest => readMembers? fuel depth ((key, v) :: read) rest
        | '\x7d' :: rest => some (.obj ((key, v) :: read).reverse, rest)
        | _ => none

end

/-- The value of a whole text; every call reads a character, so their number is fuel enough. -/
def ofChars? (cs : List Char) : Option Json :=
  match readValue? (2 * cs.length + 2) maxDepth cs with
  | some (v, rest) => if (skipSpace rest).isEmpty then some v else none
  | none => none

def ofText? (s : String) : Option Json := ofChars? s.toList

end Bookings.Json
