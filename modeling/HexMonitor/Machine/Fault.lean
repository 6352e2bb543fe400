import HexMonitor.Hex

namespace HexMonitor

/-- Every fault names the address of the instruction that caused it. -/
inductive Fault
  | invalidOpcode (opcode : UInt8) (pc : UInt16)
  | invalidRegister (register : UInt8) (pc : UInt16)
  | truncated (pc : UInt16)
  deriving DecidableEq, Repr

namespace Fault

def pc : Fault → UInt16
  | invalidOpcode _ pc | invalidRegister _ pc | truncated pc => pc

def address (pc : UInt16) : String := "0x" ++ Hex.render (Bytes.ofUInt16 pc)

def message : Fault → String
  | invalidOpcode opcode pc => "Invalid opcode 0x" ++ Hex.render [opcode] ++ " at " ++ address pc
  | invalidRegister register pc =>
    "Invalid register r" ++ toString register.toNat ++ " at " ++ address pc
  | truncated pc => "Instruction at " ++ address pc ++ " runs past the end of memory"

end Fault

end HexMonitor
