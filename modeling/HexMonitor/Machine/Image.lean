import HexMonitor.Machine.Basic

namespace HexMonitor

def registersOffset : Nat := memorySize

def pcOffset : Nat := registersOffset + registerCount

def flagsOffset : Nat := pcOffset + 2

def cyclesOffset : Nat := flagsOffset + 1

def stateSize : Nat := cyclesOffset + 4

namespace Machine

/-- The whole state as bytes. -/
def image (m : Machine) : Bytes :=
  m.memory.toList ++ m.registers.toList ++ Bytes.ofUInt16 m.pc ++ [m.status.toByte]
    ++ Bytes.ofUInt32 m.cycles

def ofImage? (image : Bytes) : Option Machine :=
  match image.drop pcOffset with
  | [p₁, p₀, flags, c₃, c₂, c₁, c₀] => do
    let status ← Status.ofByte? flags
    return {
      memory := Vector.ofFn fun i => image.getD i 0
      registers := Vector.ofFn fun i => image.getD (registersOffset + i) 0
      pc := Bytes.toUInt16 p₁ p₀
      status
      cycles := Bytes.toUInt32 c₃ c₂ c₁ c₀ }
  | _ => none

@[simp] theorem length_image (m : Machine) : m.image.length = stateSize := by
  simp [image, stateSize, cyclesOffset, flagsOffset, pcOffset, registersOffset, memorySize,
    registerCount]

theorem getD_image_memory (m : Machine) (i : Nat) (h : i < memorySize) :
    m.image.getD i 0 = m.memory[i] := by
  simp only [memorySize] at h
  simp [image, List.getElem?_append, h]

theorem getD_image_registers (m : Machine) (i : Nat) (h : i < registerCount) :
    m.image.getD (registersOffset + i) 0 = m.registers[i] := by
  simp only [registerCount] at h
  have h₁ : ¬ 256 + i < 256 := by omega
  simp [image, List.getElem?_append, registersOffset, memorySize, h, h₁]

theorem drop_image (m : Machine) :
    m.image.drop pcOffset
      = Bytes.ofUInt16 m.pc ++ [m.status.toByte] ++ Bytes.ofUInt32 m.cycles := by
  have h : (m.memory.toList ++ m.registers.toList).length = pcOffset := by simp; rfl
  rw [image, List.append_assoc, List.append_assoc, List.drop_left' h, List.append_assoc]

/-- An image determines its machine. -/
@[simp] theorem ofImage?_image (m : Machine) : ofImage? m.image = some m := by
  have hm : (Vector.ofFn fun i : Fin 256 => m.image.getD i 0) = m.memory :=
    Vector.ext fun i h => by simpa using getD_image_memory m i h
  have hr : (Vector.ofFn fun i : Fin 8 => m.image.getD (registersOffset + i) 0) = m.registers :=
    Vector.ext fun i h => by simpa using getD_image_registers m i h
  simp only [ofImage?, drop_image, Bytes.ofUInt16, Bytes.ofUInt32, List.cons_append,
    List.nil_append, Status.ofByte?_toByte, Bytes.toUInt16_parts, Bytes.toUInt32_parts, hm, hr]
  rfl

end Machine

end HexMonitor
