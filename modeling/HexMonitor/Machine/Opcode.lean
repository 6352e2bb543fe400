namespace HexMonitor

inductive Opcode
  | halt | nop | jump | jumpZero | jumpNotZero
  | loadImm | move
  | load | store
  | add | sub | inc | dec | and | or | xor
  deriving DecidableEq, Repr

namespace Opcode

/-- Control flow in the row of 0x00, registers in that of 0x10, memory in that of 0x20, arithmetic
and logic in that of 0x30. -/
def toByte : Opcode → UInt8
  | halt => 0x00
  | nop => 0x01
  | jump => 0x02
  | jumpZero => 0x03
  | jumpNotZero => 0x04
  | loadImm => 0x10
  | move => 0x11
  | load => 0x20
  | store => 0x21
  | add => 0x30
  | sub => 0x31
  | inc => 0x32
  | dec => 0x33
  | and => 0x34
  | or => 0x35
  | xor => 0x36

def ofByte? (byte : UInt8) : Option Opcode :=
  match byte with
  | 0x00 => some halt
  | 0x01 => some nop
  | 0x02 => some jump
  | 0x03 => some jumpZero
  | 0x04 => some jumpNotZero
  | 0x10 => some loadImm
  | 0x11 => some move
  | 0x20 => some load
  | 0x21 => some store
  | 0x30 => some add
  | 0x31 => some sub
  | 0x32 => some inc
  | 0x33 => some dec
  | 0x34 => some and
  | 0x35 => some or
  | 0x36 => some xor
  | _ => none

def name : Opcode → String
  | halt => "HALT"
  | nop => "NOP"
  | jump => "JUMP"
  | jumpZero => "JUMP_ZERO"
  | jumpNotZero => "JUMP_NOT_ZERO"
  | loadImm => "LOAD_IMM"
  | move => "MOVE"
  | load => "LOAD"
  | store => "STORE"
  | add => "ADD"
  | sub => "SUB"
  | inc => "INC"
  | dec => "DEC"
  | and => "AND"
  | or => "OR"
  | xor => "XOR"

def operandCount : Opcode → Nat
  | halt | nop => 0
  | jump | inc | dec => 1
  | jumpZero | jumpNotZero | loadImm | move | load | store | add | sub | and | or | xor => 2

def size (op : Opcode) : Nat := 1 + op.operandCount

@[simp] theorem ofByte?_toByte (op : Opcode) : ofByte? op.toByte = some op := by
  cases op <;> rfl

theorem eq_toByte_of_ofByte? {byte : UInt8} {op : Opcode} (h : ofByte? byte = some op) :
    byte = op.toByte := by
  unfold ofByte? at h
  split at h <;> simp_all <;> subst h <;> rfl

theorem ofByte?_eq_some_iff {byte : UInt8} {op : Opcode} :
    ofByte? byte = some op ↔ byte = op.toByte :=
  ⟨eq_toByte_of_ofByte?, fun h => h ▸ ofByte?_toByte op⟩

theorem size_pos (op : Opcode) : 0 < op.size := by unfold size; omega

theorem size_le (op : Opcode) : op.size ≤ 3 := by cases op <;> decide

end Opcode

end HexMonitor
