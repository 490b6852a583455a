import Bookings.Text.Hidden

namespace Bookings.Text

def numbered (c : Char) : String :=
  "\\u\x7b" ++ String.ofList (Nat.toDigits 16 c.toNat) ++ "\x7d"

def escaped (c : Char) : String :=
  match c.toNat with
  | 0 => "\\0"
  | 9 => "\\t"
  | 10 => "\\n"
  | 13 => "\\r"
  | 39 => "\\\x27"
  | 92 => "\\\\"
  | _ => if isHidden c then numbered c else c.toString

def quoted (c : Char) : String :=
  "\x27" ++ escaped c ++ "\x27"

end Bookings.Text
