import Bookings.Text.Blank
import Bookings.Protocol.Dispatch

namespace Bookings

def maxLineBytes : Nat := 65536

inductive Frame where
  | line (text : String)
  | tooLong
  | undecodable
deriving DecidableEq

namespace Frame

/-- The text of a line given by its bytes, latest first; one carriage return at its end is
dropped. -/
def ofBytes (held : List UInt8) : Frame :=
  let held := match held with
    | 13 :: rest => rest
    | held => held
  match String.fromUTF8? ⟨held.reverse.toArray⟩ with
  | some s => .line s
  | none => .undecodable

/-- What stands behind the last line feed counts as a line, unless it is nothing or a carriage
return. -/
def last (held : List UInt8) : List Frame :=
  if held = [] ∨ held = [13] then [] else [ofBytes held]

/-- The frames from here on, where `held` are the bytes of the current line, latest first, and
`count` is their number. Nothing is read behind a frame that is no line. -/
def split (held : List UInt8) (count : Nat) : List UInt8 → List Frame
  | [] => last held
  | b :: rest =>
    if b = 10 then
      match ofBytes held with
      | .line s => .line s :: split [] 0 rest
      | bad => [bad]
    else if maxLineBytes ≤ count then [.tooLong]
    else split (b :: held) (count + 1) rest

def ofStream (bytes : List UInt8) : List Frame := split [] 0 bytes

end Frame

inductive Ending where
  | closed
  | undecodable
deriving DecidableEq

def Ending.message : Ending → String
  | .closed => "ok"
  | .undecodable => "Unable to decode input as UTF8"

structure Transcript where
  lines : List String
  ending : Ending

namespace Desk

/-- Answers frames in order, behind the lines already sent, latest first. Time passes from one
answer to the next: each is given at the desk of its number. -/
def answerFrames (explain : String → String) (desk : Nat → Desk) (sent : List String) :
    List Frame → Plan Transcript
  | [] => .done ⟨sent.reverse, .closed⟩
  | .line s :: rest =>
    if Text.isBlankText s then answerFrames explain desk sent rest
    else ((desk sent.length).handleLine explain s).bind fun r =>
      answerFrames explain desk (r.line :: sent) rest
  | .tooLong :: _ =>
    .done ⟨((Response.refused .badRequest "request line too long").line :: sent).reverse, .closed⟩
  | .undecodable :: _ => .done ⟨sent.reverse, .undecodable⟩

def attend (explain : String → String) (desk : Nat → Desk) (bytes : List UInt8) : Plan Transcript :=
  answerFrames explain desk [] (Frame.ofStream bytes)

def serve (d : Desk) (explain : String → String) (bytes : List UInt8) : Plan Transcript :=
  attend explain (fun _ => d) bytes

end Desk

end Bookings
