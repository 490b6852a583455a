namespace Bookings.Log

/-- Shifts one bit out and subtracts the polynomial if the bit was set. -/
def shiftBit (c : UInt32) : UInt32 :=
  if c &&& 1 = 1 then (c >>> 1) ^^^ 0xEDB88320 else c >>> 1

def shiftBits : Nat → UInt32 → UInt32
  | 0, c => c
  | n + 1, c => shiftBits n (shiftBit c)

def addByte (c : UInt32) (b : UInt8) : UInt32 := shiftBits 8 (c ^^^ b.toUInt32)

def checksum (bytes : List UInt8) : UInt32 :=
  bytes.foldl addByte 0xFFFFFFFF ^^^ 0xFFFFFFFF

end Bookings.Log
