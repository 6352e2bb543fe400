import HexMonitor.Machine.Basic
import HexMonitor.Machine.Opcode

namespace HexMonitor

inductive Instruction
  | halt
  | nop
  | jump (target : UInt8)
  | jumpZero (r : Register) (target : UInt8)
  | jumpNotZero (r : Register) (target : UInt8)
  | loadImm (dst : Register) (value : UInt8)
  | move (dst src : Register)
  | load (dst : Register) (address : UInt8)
  | store (src : Register) (address : UInt8)
  | add (dst src : Register)
  | sub (dst src : Register)
  | inc (r : Register)
  | dec (r : Register)
  | and (dst src : Register)
  | or (dst src : Register)
  | xor (dst src : Register)
  deriving DecidableEq, Repr

namespace Instruction

def opcode : Instruction → Opcode
  | halt => .halt
  | nop => .nop
  | jump _ => .jump
  | jumpZero .. => .jumpZero
  | jumpNotZero .. => .jumpNotZero
  | loadImm .. => .loadImm
  | move .. => .move
  | load .. => .load
  | store .. => .store
  | add .. => .add
  | sub .. => .sub
  | inc _ => .inc
  | dec _ => .dec
  | and .. => .and
  | or .. => .or
  | xor .. => .xor

def operands : Instruction → Bytes
  | halt | nop => []
  | jump target => [target]
  | inc r | dec r => [.ofNat r]
  | jumpZero r b | jumpNotZero r b | loadImm r b | load r b | store r b => [.ofNat r, b]
  | move d s | add d s | sub d s | and d s | or d s | xor d s => [.ofNat d, .ofNat s]

def encode (i : Instruction) : Bytes := i.opcode.toByte :: i.operands

def size (i : Instruction) : Nat := i.opcode.size

/-- An operation applied to its operand bytes. Register numbers are checked in encoding order, and
the first bad one is handed back; operand bytes that the operation does not have are ignored. -/
def decode (op : Opcode) (a b : UInt8) : Except UInt8 Instruction :=
  match op with
  | .halt => .ok halt
  | .nop => .ok nop
  | .jump => .ok (jump a)
  | .jumpZero => return jumpZero (← Register.ofByte a) b
  | .jumpNotZero => return jumpNotZero (← Register.ofByte a) b
  | .loadImm => return loadImm (← Register.ofByte a) b
  | .move => return move (← Register.ofByte a) (← Register.ofByte b)
  | .load => return load (← Register.ofByte a) b
  | .store => return store (← Register.ofByte a) b
  | .add => return add (← Register.ofByte a) (← Register.ofByte b)
  | .sub => return sub (← Register.ofByte a) (← Register.ofByte b)
  | .inc => return inc (← Register.ofByte a)
  | .dec => return dec (← Register.ofByte a)
  | .and => return and (← Register.ofByte a) (← Register.ofByte b)
  | .or => return or (← Register.ofByte a) (← Register.ofByte b)
  | .xor => return xor (← Register.ofByte a) (← Register.ofByte b)

/-- What an instruction does to registers and memory. Arithmetic wraps around at 256; control flow
touches neither. -/
def effect (i : Instruction) (m : Machine) : Machine :=
  match i with
  | halt | nop | jump _ | jumpZero .. | jumpNotZero .. => m
  | loadImm d value => m.setRegister d value
  | move d s => m.setRegister d (m.register s)
  | load d address => m.setRegister d (m.byteAt address)
  | store s address => m.setByte address (m.register s)
  | add d s => m.setRegister d (m.register d + m.register s)
  | sub d s => m.setRegister d (m.register d - m.register s)
  | inc r => m.setRegister r (m.register r + 1)
  | dec r => m.setRegister r (m.register r - 1)
  | and d s => m.setRegister d (m.register d &&& m.register s)
  | or d s => m.setRegister d (m.register d ||| m.register s)
  | xor d s => m.setRegister d (m.register d ^^^ m.register s)

/-- The target of a jump that is taken in state `m`; `none` if control falls through. -/
def takenTarget? (i : Instruction) (m : Machine) : Option UInt8 :=
  match i with
  | jump target => some target
  | jumpZero r target => if m.register r = 0 then some target else none
  | jumpNotZero r target => if m.register r = 0 then none else some target
  | _ => none

def successor (i : Instruction) (m : Machine) : UInt16 :=
  match i.takenTarget? m with
  | some target => target.toUInt16
  | none => m.pc + .ofNat i.size

@[simp] theorem length_operands (i : Instruction) : i.operands.length = i.opcode.operandCount := by
  cases i <;> rfl

theorem length_encode (i : Instruction) : i.encode.length = i.size := by
  simp [encode, size, Opcode.size, Nat.add_comm]

@[simp] theorem pc_effect (i : Instruction) (m : Machine) : (i.effect m).pc = m.pc := by
  cases i <;> rfl

@[simp] theorem status_effect (i : Instruction) (m : Machine) :
    (i.effect m).status = m.status := by
  cases i <;> rfl

@[simp] theorem cycles_effect (i : Instruction) (m : Machine) :
    (i.effect m).cycles = m.cycles := by
  cases i <;> rfl

end Instruction

end HexMonitor
