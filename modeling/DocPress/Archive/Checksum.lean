/-!
The cyclic redundancy check with 32 bits, bits taken from the lowest one on.
-/

namespace DocPress.Archive

/-- The generating polynomial, its highest power in the lowest bit. -/
def polynomial : UInt32 := 0xEDB88320

def reduceBit (r : UInt32) : UInt32 :=
  if r &&& 1 = 1 then (r >>> 1) ^^^ polynomial else r >>> 1

def addByte (r : UInt32) (b : UInt8) : UInt32 :=
  Nat.repeat reduceBit 8 (r ^^^ b.toUInt32)

def checksum (bytes : List UInt8) : UInt32 :=
  bytes.foldl addByte 0xFFFFFFFF ^^^ 0xFFFFFFFF

end DocPress.Archive
