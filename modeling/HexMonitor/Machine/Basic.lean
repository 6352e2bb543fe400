import HexMonitor.Bytes
import HexMonitor.Machine.Status

namespace HexMonitor

def memorySize : Nat := 256

def registerCount : Nat := 8

abbrev Register := Fin 8

/-- The register with a given number; a number that names none is handed back. -/
def Register.ofByte (number : UInt8) : Except UInt8 Register :=
  if h : number.toNat < 8 then .ok ⟨number.toNat, h⟩ else .error number

structure Machine where
  memory : Vector UInt8 256
  registers : Vector UInt8 8
  pc : UInt16
  status : Status
  cycles : UInt32
  deriving DecidableEq, Repr

structure LoadError where
  length : Nat
  capacity : Nat
  deriving DecidableEq, Repr

def LoadError.message (e : LoadError) : String :=
  "Program of " ++ toString e.length ++ " bytes exceeds machine memory of "
    ++ toString e.capacity ++ " bytes"

namespace Machine

def zero : Machine where
  memory := Vector.replicate 256 0
  registers := Vector.replicate 8 0
  pc := 0
  status := .clear
  cycles := 0

def byteAt (m : Machine) (address : UInt8) : UInt8 := m.memory[address.toFin]

def setByte (m : Machine) (address value : UInt8) : Machine :=
  { m with memory := m.memory.set address.toFin value }

def register (m : Machine) (r : Register) : UInt8 := m.registers[r]

def setRegister (m : Machine) (r : Register) (value : UInt8) : Machine :=
  { m with registers := m.registers.set r value }

/-- The bytes of `program` from address 0, then zeros; bytes past the end of memory are lost. -/
def imageOf (program : Bytes) : Vector UInt8 256 :=
  Vector.ofFn fun i => program.getD i 0

def load (program : Bytes) : Except LoadError Machine :=
  if program.length > memorySize then .error ⟨program.length, memorySize⟩
  else .ok { zero with memory := imageOf program }

theorem toList_imageOf {program : Bytes} (h : program.length ≤ memorySize) :
    (imageOf program).toList = program ++ List.replicate (memorySize - program.length) 0 := by
  have hl : memorySize = 256 := rfl
  apply List.ext_getElem
  · simp [hl] at h ⊢
    omega
  · intro i h₁ h₂
    rw [List.getElem_append]
    split
    · rename_i hi
      simp [imageOf, hi]
    · rename_i hi
      simp [imageOf, Nat.not_lt.1 hi]

@[simp] theorem byteAt_setByte_self (m : Machine) (a v : UInt8) : (m.setByte a v).byteAt a = v := by
  simp [byteAt, setByte]

@[simp] theorem byteAt_setRegister (m : Machine) (r : Register) (v a : UInt8) :
    (m.setRegister r v).byteAt a = m.byteAt a := rfl

@[simp] theorem register_setByte (m : Machine) (a v : UInt8) (r : Register) :
    (m.setByte a v).register r = m.register r := rfl

@[simp] theorem register_setRegister_self (m : Machine) (r : Register) (v : UInt8) :
    (m.setRegister r v).register r = v := by
  simp [register, setRegister]

theorem byteAt_setByte_ne (m : Machine) {a a' : UInt8} (h : a' ≠ a) (v : UInt8) :
    (m.setByte a v).byteAt a' = m.byteAt a' := by
  have hn : a.toNat ≠ a'.toNat := fun he => h (UInt8.toNat_inj.1 he.symm)
  exact Vector.getElem_set_ne a.toFin.isLt a'.toFin.isLt hn

theorem getElem?_setByte {m : Machine} {a : UInt8} {i : Nat} (v : UInt8) (h : a.toNat ≠ i) :
    (m.setByte a v).memory[i]? = m.memory[i]? :=
  Vector.getElem?_set_ne a.toFin.isLt h

theorem setByte_setByte (m : Machine) (a v w : UInt8) :
    (m.setByte a v).setByte a w = m.setByte a w := by
  simp only [setByte, Vector.set_set]

theorem setByte_comm (m : Machine) {a b : UInt8} (h : a ≠ b) (v w : UInt8) :
    (m.setByte a v).setByte b w = (m.setByte b w).setByte a v := by
  have hn : a.toNat ≠ b.toNat := fun he => h (UInt8.toNat_inj.1 he)
  have hm : (m.memory.set a.toFin v).set b.toFin w = (m.memory.set b.toFin w).set a.toFin v :=
    Vector.set_comm v w hn
  simp only [setByte, hm]

theorem setByte_byteAt (m : Machine) (a : UInt8) : m.setByte a (m.byteAt a) = m := by
  have hm : m.memory.set a.toFin (m.byteAt a) = m.memory := Vector.set_getElem_self _
  simp only [setByte, hm]

theorem register_setRegister_ne (m : Machine) {r r' : Register} (h : r' ≠ r) (v : UInt8) :
    (m.setRegister r v).register r' = m.register r' := by
  have hn : r.val ≠ r'.val := fun he => h (Fin.ext he.symm)
  exact Vector.getElem_set_ne r.isLt r'.isLt hn

end Machine

end HexMonitor
