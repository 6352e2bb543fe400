namespace HexMonitor

structure Status where
  halted : Bool := false
  faulted : Bool := false
  deriving DecidableEq, Repr

namespace Status

def clear : Status := {}

/-- The byte holds the halt flag in bit 0 and the fault flag in bit 1. -/
def toByte (s : Status) : UInt8 := s.halted.toUInt8 ||| (s.faulted.toUInt8 <<< 1)

/-- Reads the two flags and ignores every other bit. -/
def ofByteTruncating (byte : UInt8) : Status :=
  { halted := byte &&& 1 ≠ 0, faulted := byte &&& 2 ≠ 0 }

/-- Reads the two flags and refuses a byte with any other bit set. -/
def ofByte? (byte : UInt8) : Option Status :=
  if byte ≤ 3 then some (ofByteTruncating byte) else none

def names (s : Status) : List String :=
  (if s.halted then ["HALTED"] else []) ++ (if s.faulted then ["FAULTED"] else [])

@[simp] theorem toByte_clear : toByte clear = 0 := rfl

@[simp] theorem ofByteTruncating_toByte (s : Status) : ofByteTruncating s.toByte = s := by
  obtain ⟨halted, faulted⟩ := s
  cases halted <;> cases faulted <;> rfl

@[simp] theorem ofByte?_toByte (s : Status) : ofByte? s.toByte = some s := by
  obtain ⟨halted, faulted⟩ := s
  cases halted <;> cases faulted <;> rfl

end Status

end HexMonitor
