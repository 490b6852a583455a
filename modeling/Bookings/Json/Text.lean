import Bookings.Json.Value
import Bookings.Number.Shortest

namespace Bookings.Json

def hexDigit (n : Nat) : Char :=
  Char.ofNat (if n < 10 then n + 48 else n + 87)

def escape (c : Char) : List Char :=
  let n := c.toNat
  if n = 34 then ['\\', '\x22']
  else if n = 92 then ['\\', '\\']
  else if 32 ≤ n then [c]
  else if n = 8 then ['\\', 'b']
  else if n = 9 then ['\\', 't']
  else if n = 10 then ['\\', 'n']
  else if n = 12 then ['\\', 'f']
  else if n = 13 then ['\\', 'r']
  else ['\\', 'u', '0', '0', hexDigit (n / 16), hexDigit (n % 16)]

def stringChars (s : String) : List Char :=
  '\x22' :: (s.toList.flatMap escape ++ ['\x22'])

def natChars (n : Nat) : List Char := Nat.toDigits 10 n

def intChars : Int → List Char
  | .ofNat n => natChars n
  | .negSucc n => '-' :: natChars (n + 1)

def nullChars : List Char := ['n', 'u', 'l', 'l']

def boolChars : Bool → List Char
  | true => ['t', 'r', 'u', 'e']
  | false => ['f', 'a', 'l', 's', 'e']

mutual

def chars : Json → List Char
  | .null => nullChars
  | .bool b => boolChars b
  | .int n => intChars n
  | .float x => x.chars?.getD nullChars
  | .str s => stringChars s
  | .arr [] => ['[', ']']
  | .arr (v :: rest) => '[' :: (v.chars ++ itemChars rest)
  | .obj [] => ['\x7b', '\x7d']
  | .obj ((key, v) :: rest) =>
    '\x7b' :: (stringChars key ++ ':' :: (v.chars ++ memberChars rest))

def itemChars : List Json → List Char
  | [] => [']']
  | v :: rest => ',' :: (v.chars ++ itemChars rest)

def memberChars : List (String × Json) → List Char
  | [] => ['\x7d']
  | (key, v) :: rest => ',' :: (stringChars key ++ ':' :: (v.chars ++ memberChars rest))

end

def text (v : Json) : String := String.ofList v.chars

end Bookings.Json
