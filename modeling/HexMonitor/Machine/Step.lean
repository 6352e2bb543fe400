import HexMonitor.Machine.Fault
import HexMonitor.Machine.Instruction

namespace HexMonitor

namespace Machine

def byteOr (m : Machine) (pad : UInt8) (address : Nat) : UInt8 := m.memory[address]?.getD pad

/-- The instruction at the program counter, where bytes past the end of memory read as `pad`. The
checks come in this order: the counter is inside memory, the opcode is assigned, the instruction
ends inside memory, its register operands exist. -/
def fetchPadded (pad : UInt8) (m : Machine) : Except Fault Instruction :=
  let address := m.pc.toNat
  match m.memory[address]? with
  | none => .error (.truncated m.pc)
  | some byte =>
    match Opcode.ofByte? byte with
    | none => .error (.invalidOpcode byte m.pc)
    | some op =>
      if address + op.size > memorySize then .error (.truncated m.pc)
      else
        (Instruction.decode op (m.byteOr pad (address + 1)) (m.byteOr pad (address + 2))).mapError
          (Fault.invalidRegister · m.pc)

def fetch (m : Machine) : Except Fault Instruction := m.fetchPadded 0

inductive Step
  | next (m : Machine)
  | halted (m : Machine)
  | faulted (fault : Fault)
  deriving DecidableEq, Repr

def retire (m : Machine) : Machine := { m with cycles := m.cycles + 1 }

/-- A halt counts as completed and leaves the program counter on itself. -/
def perform (m : Machine) (i : Instruction) : Step :=
  match i with
  | .halt => .halted m.retire
  | i => .next { (i.effect m).retire with pc := i.successor m }

/-- Executes one instruction, with bytes past the end of memory read as `pad`. -/
def stepPadded (pad : UInt8) (m : Machine) : Step :=
  match m.fetchPadded pad with
  | .error fault => .faulted fault
  | .ok i => m.perform i

def step (m : Machine) : Step := m.stepPadded 0

end Machine

end HexMonitor
