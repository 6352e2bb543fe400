import HexMonitor.Proofs.Code
import HexMonitor.Proofs.Dumps
import HexMonitor.Proofs.Phases
import HexMonitor.Proofs.Uploads

namespace HexMonitor

namespace Machine

/-- `Overwrites m m'`: in registers and memory `m'` differs from `m` by one register at most; or by
one byte at most, if a store instruction is at the program counter of `m` and the byte is at the
address that is its second operand. -/
inductive Overwrites (m m' : Machine) : Prop
  | register (r : Register) (hm : m'.memory = m.memory)
      (hr : ∀ r', r' ≠ r → m'.register r' = m.register r')
  | byte (a : UInt8) (hr : m'.registers = m.registers) (ho : m.memory[m.pc.toNat]? = some 0x21)
      (ha : m.memory[m.pc.toNat + 2]? = some a) (hm : ∀ a', a' ≠ a → m'.byteAt a' = m.byteAt a')

theorem overwrites_of_next {m m' : Machine} (h : m.step = .next m') : m.Overwrites m' := by
  obtain ⟨i, hf, -, rfl⟩ := (m.step_eq_next_iff m').1 h
  have hi := holds_of_fetch hf
  cases i with
  | halt | nop | jump | jumpZero | jumpNotZero => exact .register 0 rfl fun _ _ => rfl
  | loadImm d | move d | load d | add d | sub d | inc d | dec d | and d | or d | xor d =>
    exact .register d rfl fun _ hr => m.register_setRegister_ne hr _
  | store s a => exact .byte a rfl (hi 0 _ rfl) (hi 2 _ rfl) fun _ ha => m.byteAt_setByte_ne ha _

/-- The opcode of a store has to be in memory for a byte to change. -/
theorem Overwrites.memory_eq {m m' : Machine} (h : m.Overwrites m') (hs : 0x21 ∉ m.memory) :
    m'.memory = m.memory := by
  cases h with
  | register r hm => exact hm
  | byte a hr ho => exact absurd (Vector.mem_of_getElem? ho) hs

end Machine

namespace Hex

end Hex

namespace Machine

theorem not_mem_imageOf {program : Bytes} {byte : UInt8} (hb : byte ≠ 0) (hp : byte ∉ program) :
    byte ∉ imageOf program := by
  intro h
  obtain ⟨i, hi, h⟩ := Vector.mem_iff_getElem.1 h
  simp only [imageOf, Vector.getElem_ofFn, List.getD_eq_getElem?_getD] at h
  cases hg : program[i]? with
  | none =>
    rw [hg] at h
    exact hb h.symm
  | some b =>
    rw [hg, Option.getD_some] at h
    exact hp (h ▸ List.mem_of_getElem? hg)

end Machine

namespace Session

end Session

namespace Monitor

end Monitor

end HexMonitor
