import Mathlib.Logic.Function.Basic
import HexMonitor.Machine.Instruction

namespace HexMonitor

@[ext]
structure Cells where
  register : Register → Nat
  byte : UInt8 → Nat

namespace Cells

def putRegister (c : Cells) (r : Register) (n : Nat) : Cells :=
  { c with register := Function.update c.register r n }

def putByte (c : Cells) (address : UInt8) (n : Nat) : Cells :=
  { c with byte := Function.update c.byte address n }

def ofProgram (program : Bytes) : Cells where
  register _ := 0
  byte address := (program.getD address.toNat 0).toNat

end Cells

def Instruction.meaning (i : Instruction) (c : Cells) : Cells :=
  match i with
  | halt | nop | jump _ | jumpZero .. | jumpNotZero .. => c
  | loadImm d value => c.putRegister d value.toNat
  | move d s => c.putRegister d (c.register s)
  | load d address => c.putRegister d (c.byte address)
  | store s address => c.putByte address (c.register s)
  | add d s => c.putRegister d ((c.register d + c.register s) % 256)
  | sub d s => c.putRegister d ((256 + c.register d - c.register s) % 256)
  | inc r => c.putRegister r ((c.register r + 1) % 256)
  | dec r => c.putRegister r ((c.register r + 255) % 256)
  | and d s => c.putRegister d (c.register d &&& c.register s)
  | or d s => c.putRegister d (c.register d ||| c.register s)
  | xor d s => c.putRegister d (c.register d ^^^ c.register s)

namespace Machine

def cells (m : Machine) : Cells where
  register r := (m.register r).toNat
  byte address := (m.byteAt address).toNat

theorem cells_setRegister (m : Machine) (r : Register) (value : UInt8) :
    (m.setRegister r value).cells = m.cells.putRegister r value.toNat := by
  ext r'
  · by_cases h : r' = r
    · simp [cells, Cells.putRegister, h]
    · simp [cells, Cells.putRegister, Function.update_of_ne h, register_setRegister_ne m h]
  · rfl

theorem cells_setByte (m : Machine) (address value : UInt8) :
    (m.setByte address value).cells = m.cells.putByte address value.toNat := by
  ext a
  · rfl
  · by_cases h : a = address
    · simp [cells, Cells.putByte, h]
    · simp [cells, Cells.putByte, Function.update_of_ne h, byteAt_setByte_ne m h]

/-- The effect on bytes, which wrap around, is the meaning for numbers. -/
theorem cells_effect (i : Instruction) (m : Machine) :
    (i.effect m).cells = i.meaning m.cells := by
  cases i with
  | halt | nop | jump | jumpZero | jumpNotZero => rfl
  | loadImm | move | load => exact m.cells_setRegister _ _
  | store => exact m.cells_setByte _ _
  | add | inc =>
    simp only [Instruction.effect, cells_setRegister, UInt8.toNat_add]
    rfl
  | and | or | xor =>
    simp only [Instruction.effect, cells_setRegister, UInt8.toNat_and, UInt8.toNat_or,
      UInt8.toNat_xor]
    rfl
  | sub d s =>
    have hs := (m.register s).toNat_lt
    have hn : (m.register d - m.register s).toNat =
        (256 + (m.register d).toNat - (m.register s).toNat) % 256 := by
      rw [UInt8.toNat_sub]
      omega
    rw [Instruction.effect, cells_setRegister, hn]
    rfl
  | dec r =>
    have hn : (m.register r - 1).toNat = ((m.register r).toNat + 255) % 256 := by
      rw [UInt8.toNat_sub, UInt8.toNat_one, Nat.add_comm]
    rw [Instruction.effect, cells_setRegister, hn]
    rfl

theorem cells_imageOf (program : Bytes) :
    ({ zero with memory := imageOf program } : Machine).cells = Cells.ofProgram program := by
  ext x
  · simp [cells, register, zero, Cells.ofProgram]
  · simp [cells, byteAt, imageOf, Cells.ofProgram]

end Machine

end HexMonitor
