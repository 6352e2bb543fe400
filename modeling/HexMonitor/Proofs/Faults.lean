import HexMonitor.Machine.Step

namespace HexMonitor

/-- How many of an operation's operand bytes, from the first on, are numbers of registers. -/
def Opcode.registerOperands : Opcode → Nat
  | halt | nop | jump => 0
  | jumpZero | jumpNotZero | loadImm | load | store | inc | dec => 1
  | move | add | sub | and | or | xor => 2

theorem Opcode.registerOperands_le (op : Opcode) : op.registerOperands ≤ op.operandCount := by
  cases op <;> decide

namespace Instruction

theorem decode_badFirst {op : Opcode} {a : UInt8} (b : UInt8) (hn : 1 ≤ op.registerOperands)
    (ha : 8 ≤ a) : decode op a b = .error a := by
  have h : Register.ofByte a = .error a := dif_neg (by simpa [UInt8.le_iff_toNat_le] using ha)
  cases op <;> first | (simp only [decode, h]; rfl) | cases hn

theorem decode_badSecond {op : Opcode} {a b : UInt8} (hn : op.registerOperands = 2) (ha : a < 8)
    (hb : 8 ≤ b) : decode op a b = .error b := by
  have h : Register.ofByte a = .ok ⟨a.toNat, ha⟩ := dif_pos ha
  have h' : Register.ofByte b = .error b := dif_neg (by simpa [UInt8.le_iff_toNat_le] using hb)
  cases op <;> first | (simp only [decode, h, h']; rfl) | cases hn

theorem decode_registers {op : Opcode} {a b : UInt8} (ha : 1 ≤ op.registerOperands → a < 8)
    (hb : op.registerOperands = 2 → b < 8) : ∃ i, decode op a b = .ok i ∧ i.opcode = op := by
  have h (c : UInt8) (hc : c < 8) : Register.ofByte c = .ok ⟨c.toNat, hc⟩ := dif_pos hc
  cases op with
  | halt | nop | jump => exact ⟨_, rfl, rfl⟩
  | jumpZero | jumpNotZero | loadImm | load | store | inc | dec =>
    simp only [decode, h a (ha (by decide))]
    exact ⟨_, rfl, rfl⟩
  | move | add | sub | and | or | xor =>
    simp only [decode, h a (ha (by decide)), h b (hb rfl)]
    exact ⟨_, rfl, rfl⟩

end Instruction

namespace Machine

/-- `Faults m f`: the instruction at the program counter of `m` cannot be executed, and `f` tells
why. -/
inductive Faults (m : Machine) : Fault → Prop
  | outside (h : memorySize ≤ m.pc.toNat) : Faults m (.truncated m.pc)
  | unassigned {byte : UInt8} (hb : m.memory[m.pc.toNat]? = some byte)
      (h : Opcode.ofByte? byte = none) : Faults m (.invalidOpcode byte m.pc)
  | crossing {op : Opcode} (ho : m.memory[m.pc.toNat]? = some op.toByte)
      (h : memorySize < m.pc.toNat + op.size) : Faults m (.truncated m.pc)
  | badFirst {op : Opcode} {r : UInt8} (ho : m.memory[m.pc.toNat]? = some op.toByte)
      (hs : m.pc.toNat + op.size ≤ memorySize) (hn : 1 ≤ op.registerOperands)
      (hr : m.memory[m.pc.toNat + 1]? = some r) (h : 8 ≤ r) : Faults m (.invalidRegister r m.pc)
  | badSecond {op : Opcode} {r r' : UInt8} (ho : m.memory[m.pc.toNat]? = some op.toByte)
      (hs : m.pc.toNat + op.size ≤ memorySize) (hn : op.registerOperands = 2)
      (hr : m.memory[m.pc.toNat + 1]? = some r) (h : r < 8)
      (hr' : m.memory[m.pc.toNat + 2]? = some r') (h' : 8 ≤ r') :
      Faults m (.invalidRegister r' m.pc)

theorem fetch_eq_decode {m : Machine} {op : Opcode}
    (ho : m.memory[m.pc.toNat]? = some op.toByte) (hs : m.pc.toNat + op.size ≤ memorySize) :
    m.fetch = (Instruction.decode op (m.byteOr 0 (m.pc.toNat + 1))
      (m.byteOr 0 (m.pc.toNat + 2))).mapError (Fault.invalidRegister · m.pc) := by
  simp only [fetch, fetchPadded, ho, Opcode.ofByte?_toByte, if_neg (Nat.not_lt.2 hs)]

theorem Faults.fetch_eq {m : Machine} {f : Fault} (h : m.Faults f) : m.fetch = .error f := by
  cases h with
  | outside h =>
    have hn : m.memory[m.pc.toNat]? = none := Vector.getElem?_eq_none h
    simp only [fetch, fetchPadded, hn]
  | unassigned hb h => simp only [fetch, fetchPadded, hb, h]
  | crossing ho h => simp only [fetch, fetchPadded, ho, Opcode.ofByte?_toByte, if_pos h]
  | badFirst ho hs hn hr h =>
    rw [fetch_eq_decode ho hs]
    simp only [byteOr, hr, Option.getD_some, Instruction.decode_badFirst _ hn h]
    rfl
  | badSecond ho hs hn hr h hr' h' =>
    rw [fetch_eq_decode ho hs]
    simp only [byteOr, hr, hr', Option.getD_some, Instruction.decode_badSecond hn h h']
    rfl

theorem getElem?_eq_byteOr (m : Machine) (pad : UInt8) {address : Nat} (h : address < memorySize) :
    m.memory[address]? = some (m.byteOr pad address) := by
  have hb : m.memory[address]? = some m.memory[address] := Vector.getElem?_eq_getElem h
  rw [byteOr, hb, Option.getD_some]

/-- The reasons for a fault leave no other machine out. -/
theorem exists_faults_or_fetch (m : Machine) :
    (∃ f, m.Faults f) ∨ ∃ i, m.fetch = .ok i ∧ m.memory[m.pc.toNat]? = some i.opcode.toByte ∧
      m.pc.toNat + i.size ≤ memorySize := by
  -- The cases come in the order in which fetching checks them.
  by_cases hp : memorySize ≤ m.pc.toNat
  · exact .inl ⟨_, .outside hp⟩
  obtain ⟨byte, hb⟩ : ∃ byte, m.memory[m.pc.toNat]? = some byte :=
    ⟨_, Vector.getElem?_eq_getElem (Nat.not_le.1 hp)⟩
  cases ho : Opcode.ofByte? byte with
  | none => exact .inl ⟨_, .unassigned hb ho⟩
  | some op =>
    obtain rfl := Opcode.eq_toByte_of_ofByte? ho
    by_cases hs : memorySize < m.pc.toNat + op.size
    · exact .inl ⟨_, .crossing hb hs⟩
    rw [Nat.not_lt] at hs
    have hr := op.registerOperands_le
    by_cases h₁ : 1 ≤ op.registerOperands ∧ 8 ≤ m.byteOr 0 (m.pc.toNat + 1)
    · have ha : m.pc.toNat + 1 < memorySize := by unfold Opcode.size at hs; omega
      exact .inl ⟨_, .badFirst hb hs h₁.1 (m.getElem?_eq_byteOr 0 ha) h₁.2⟩
    by_cases h₂ : op.registerOperands = 2 ∧ 8 ≤ m.byteOr 0 (m.pc.toNat + 2)
    · have ha : m.pc.toNat + 2 < memorySize := by unfold Opcode.size at hs; omega
      have h : m.byteOr 0 (m.pc.toNat + 1) < 8 := UInt8.not_le.1 fun h' => h₁ ⟨by omega, h'⟩
      exact .inl ⟨_, .badSecond hb hs h₂.1 (m.getElem?_eq_byteOr 0 (by omega)) h
        (m.getElem?_eq_byteOr 0 ha) h₂.2⟩
    right
    obtain ⟨i, hi, rfl⟩ := Instruction.decode_registers
      (fun h => UInt8.not_le.1 fun h' => h₁ ⟨h, h'⟩) (fun h => UInt8.not_le.1 fun h' => h₂ ⟨h, h'⟩)
    refine ⟨i, ?_, hb, hs⟩
    rw [fetch_eq_decode hb hs, hi]
    rfl

theorem fetch_eq_error_iff (m : Machine) (f : Fault) : m.fetch = .error f ↔ m.Faults f := by
  constructor
  · intro h
    rcases m.exists_faults_or_fetch with ⟨f', hf⟩ | ⟨i, hi, -⟩
    · cases h.symm.trans hf.fetch_eq
      exact hf
    · cases h.symm.trans hi
  · intro h
    exact h.fetch_eq

theorem opcode_unique {m : Machine} {op op' : Opcode}
    (h : m.memory[m.pc.toNat]? = some op.toByte) (h' : m.memory[m.pc.toNat]? = some op'.toByte) :
    op = op' := by
  have hb : op.toByte = op'.toByte := Option.some.inj (h.symm.trans h')
  have ho : Opcode.ofByte? op.toByte = some op' := Opcode.ofByte?_eq_some_iff.2 hb
  exact Option.some.inj (op.ofByte?_toByte.symm.trans ho)

theorem opcode_of_fetch {m : Machine} {i : Instruction} (h : m.fetch = .ok i) :
    m.memory[m.pc.toNat]? = some i.opcode.toByte ∧ m.pc.toNat + i.size ≤ memorySize := by
  rcases m.exists_faults_or_fetch with ⟨f, hf⟩ | ⟨i', hi, ho⟩
  · cases h.symm.trans hf.fetch_eq
  · cases h.symm.trans hi
    exact ho

theorem step_eq_faulted_iff (m : Machine) (f : Fault) : m.step = .faulted f ↔ m.Faults f := by
  rw [← fetch_eq_error_iff, step, stepPadded, ← fetch]
  cases m.fetch with
  | error f' => simp
  | ok i => cases i <;> simp [perform]

theorem step_eq_halted_iff (m m' : Machine) :
    m.step = .halted m' ↔ m.fetch = .ok .halt ∧ m' = m.retire := by
  rw [step, stepPadded, ← fetch]
  cases m.fetch with
  | error f => simp
  | ok i => cases i <;> simp [perform, eq_comm]

theorem step_eq_next_iff (m m' : Machine) :
    m.step = .next m' ↔ ∃ i, m.fetch = .ok i ∧ i ≠ .halt ∧
      m' = { (i.effect m).retire with pc := i.successor m } := by
  rw [step, stepPadded, ← fetch]
  cases m.fetch with
  | error f => simp
  | ok i => cases i <;> simp [perform, eq_comm]

/-- Control goes to a byte's value or right behind an instruction that ends in memory. -/
theorem pc_le_of_step_next {m m' : Machine} (h : m.step = .next m') :
    m'.pc.toNat ≤ memorySize := by
  obtain ⟨i, hf, -, rfl⟩ := (m.step_eq_next_iff m').1 h
  obtain ⟨-, hs⟩ := opcode_of_fetch hf
  show (i.successor m).toNat ≤ memorySize
  unfold memorySize at hs ⊢
  cases ht : i.takenTarget? m with
  | some target =>
    have hb := target.toNat_lt
    simp only [Instruction.successor, ht, UInt8.toNat_toUInt16]
    omega
  | none =>
    -- The sum does not wrap around: the instruction ends in memory.
    simp only [Instruction.successor, ht, UInt16.toNat_add, UInt16.toNat_ofNat']
    omega

end Machine

end HexMonitor
