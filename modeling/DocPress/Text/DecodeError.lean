import DocPress.Text.Quoted

/-!
What is reported when bytes cannot be read as text: the codec, the bytes in question and the reason.
-/

namespace DocPress.Text

structure DecodeError where
  codec : String
  byte : UInt8
  start : Nat
  /-- The position behind the last byte in question. -/
  stop : Nat
  reason : String
  deriving DecidableEq, Repr

namespace DecodeError

/-- The report: one byte is shown, several are given by their positions. -/
def message (e : DecodeError) : String :=
  let place :=
    if e.stop = e.start + 1 then
      s!"byte 0x{String.ofList (paddedHex 2 e.byte.toNat)} in position {e.start}"
    else s!"bytes in position {e.start}-{e.stop - 1}"
  s!"'{e.codec}' codec can't decode {place}: {e.reason}"

end DecodeError

end DocPress.Text
