import HexMonitor.Proofs.Faults

namespace HexMonitor

namespace Instruction

theorem ofByte_ofNat (r : Register) : Register.ofByte (.ofNat r) = .ok r := by
  have hr : (UInt8.ofNat r).toNat = r := by
    rw [UInt8.toNat_ofNat']
    omega
  simp only [Register.ofByte, hr, r.isLt, dite_true]

/-- Operand bytes that agree with those of an instruction are decoded as it. -/
theorem decode_operands {i : Instruction} {a b : UInt8}
    (ha : ∀ x, i.operands[0]? = some x → a = x) (hb : ∀ x, i.operands[1]? = some x → b = x) :
    decode i.opcode a b = .ok i := by
  cases i with
  | halt | nop => rfl
  | jump target =>
    rw [ha target rfl]
    rfl
  | inc r | dec r =>
    rw [ha (.ofNat r) rfl]
    simp only [opcode, decode, ofByte_ofNat]
    rfl
  | jumpZero r x | jumpNotZero r x | loadImm r x | load r x | store r x =>
    rw [ha (.ofNat r) rfl, hb x rfl]
    simp only [opcode, decode, ofByte_ofNat]
    rfl
  | move d s | add d s | sub d s | and d s | or d s | xor d s =>
    rw [ha (.ofNat d) rfl, hb (.ofNat s) rfl]
    simp only [opcode, decode, ofByte_ofNat]
    rfl

theorem ofNat_of_ofByte {number : UInt8} {r : Register} (h : Register.ofByte number = .ok r) :
    UInt8.ofNat r = number := by
  unfold Register.ofByte at h
  split at h
  · cases h
    exact UInt8.ofNat_toNat
  · cases h

/-- What is decoded is encoded in the same bytes. -/
theorem operands_of_decode {op : Opcode} {a b : UInt8} {i : Instruction}
    (h : decode op a b = .ok i) : i.opcode = op ∧ i.operands = [a, b].take op.operandCount := by
  cases op with
  | halt | nop | jump =>
    cases h
    exact ⟨rfl, rfl⟩
  | jumpZero | jumpNotZero | loadImm | load | store | inc | dec =>
    cases ha : Register.ofByte a with
    | error number =>
      simp only [decode, ha] at h
      cases h
    | ok r =>
      simp only [decode, ha] at h
      cases h
      rw [operands, ofNat_of_ofByte ha]
      exact ⟨rfl, rfl⟩
  | move | add | sub | and | or | xor =>
    cases ha : Register.ofByte a with
    | error number =>
      simp only [decode, ha] at h
      cases h
    | ok d =>
      cases hb : Register.ofByte b with
      | error number =>
        simp only [decode, ha, hb] at h
        cases h
      | ok s =>
        simp only [decode, ha, hb] at h
        cases h
        rw [operands, ofNat_of_ofByte ha, ofNat_of_ofByte hb]
        exact ⟨rfl, rfl⟩

/-- Operand bytes that an operation does not have are ignored. -/
theorem decode_congr {op : Opcode} {a b a' b' : UInt8} (ha : 0 < op.operandCount → a' = a)
    (hb : 1 < op.operandCount → b' = b) : decode op a' b' = decode op a b := by
  cases op with
  | halt | nop => rfl
  | jump | inc | dec =>
    rw [ha (by decide)]
    rfl
  | jumpZero | jumpNotZero | loadImm | move | load | store | add | sub | and | or | xor =>
    rw [ha (by decide), hb (by decide)]

end Instruction

namespace Machine

/-- `Holds m start bytes`: from the address `start` on, the memory of `m` holds `bytes`. -/
def Holds (m : Machine) (start : Nat) (bytes : Bytes) : Prop :=
  ∀ k byte, bytes[k]? = some byte → m.memory[start + k]? = some byte

theorem Holds.left {m : Machine} {start : Nat} {bytes bytes' : Bytes}
    (h : m.Holds start (bytes ++ bytes')) : m.Holds start bytes := by
  intro k byte hk
  apply h
  obtain ⟨hl, -⟩ := List.getElem?_eq_some_iff.1 hk
  rwa [List.getElem?_append_left hl]

theorem Holds.right {m : Machine} {start : Nat} {bytes bytes' : Bytes}
    (h : m.Holds start (bytes ++ bytes')) : m.Holds (start + bytes.length) bytes' := by
  intro k byte hk
  rw [Nat.add_assoc]
  apply h
  rwa [List.getElem?_append_right (Nat.le_add_right _ _), Nat.add_sub_cancel_left]

/-- What is held lies inside memory. -/
theorem Holds.end_le {m : Machine} {start : Nat} {bytes : Bytes} (h : m.Holds start bytes)
    (hne : bytes ≠ []) : start + bytes.length ≤ memorySize := by
  have hl := List.length_pos_iff.2 hne
  have hlast : bytes[bytes.length - 1]? = some bytes[bytes.length - 1] :=
    List.getElem?_eq_getElem (by omega)
  obtain ⟨hm, -⟩ := Vector.getElem?_eq_some_iff.1 (h _ _ hlast)
  unfold memorySize
  omega

theorem Holds.of_memory_eq {m m' : Machine} {start : Nat} {bytes : Bytes}
    (h : m.Holds start bytes)
    (hm : ∀ k, k < start + bytes.length → m'.memory[k]? = m.memory[k]?) : m'.Holds start bytes := by
  intro k byte hk
  obtain ⟨hl, -⟩ := List.getElem?_eq_some_iff.1 hk
  rw [hm _ (by omega)]
  exact h k byte hk

/-- An instruction that is held at the program counter is the one that is fetched. -/
theorem Holds.fetch_eq {m : Machine} {i : Instruction} (h : m.Holds m.pc.toNat i.encode) :
    m.fetch = .ok i := by
  have ho : m.memory[m.pc.toNat]? = some i.opcode.toByte := h 0 _ rfl
  have hs : m.pc.toNat + i.opcode.size ≤ memorySize := by
    have hs := h.end_le (List.cons_ne_nil _ _)
    rwa [i.length_encode] at hs
  have hk (k : Nat) (x : UInt8) (hx : i.operands[k]? = some x) :
      m.byteOr 0 (m.pc.toNat + (k + 1)) = x := by
    have hm := h (k + 1) x hx
    rw [byteOr, hm, Option.getD_some]
  rw [fetch_eq_decode ho hs, Instruction.decode_operands (hk 0) (hk 1)]
  rfl

/-- An instruction that is fetched is held at the program counter. -/
theorem holds_of_fetch {m : Machine} {i : Instruction} (h : m.fetch = .ok i) :
    m.Holds m.pc.toNat i.encode := by
  obtain ⟨ho, hs⟩ := opcode_of_fetch h
  rw [fetch_eq_decode ho hs] at h
  cases hd : Instruction.decode i.opcode (m.byteOr 0 (m.pc.toNat + 1))
      (m.byteOr 0 (m.pc.toNat + 2)) with
  | error number =>
    rw [hd] at h
    cases h
  | ok j =>
    rw [hd] at h
    cases h
    obtain ⟨-, hops⟩ := Instruction.operands_of_decode hd
    intro k byte hk
    cases k with
    | zero => exact ho.trans hk
    | succ k =>
      have hk : i.operands[k]? = some byte := hk
      rw [hops, List.getElem?_take] at hk
      obtain ⟨hn, hk⟩ := Option.ite_none_right_eq_some.1 hk
      have ha : m.pc.toNat + (k + 1) < memorySize := by
        change m.pc.toNat + (1 + i.opcode.operandCount) ≤ memorySize at hs
        omega
      rw [m.getElem?_eq_byteOr 0 ha]
      -- There are two operand bytes at most.
      cases k with
      | zero => exact hk
      | succ k =>
        cases k with
        | zero => exact hk
        | succ k => cases hk

/-- `Fetches m a`: the byte at the address `a` is part of the instruction at the program counter. -/
inductive Fetches (m : Machine) : Nat → Prop
  | opcode : Fetches m m.pc.toNat
  | operand {op : Opcode} {k : Nat} (ho : m.memory[m.pc.toNat]? = some op.toByte)
      (hs : m.pc.toNat + op.size ≤ memorySize) (hk : k < op.operandCount) :
      Fetches m (m.pc.toNat + (k + 1))

theorem Fetches.bounds {m : Machine} {i : Instruction} {a : Nat} (h : m.Fetches a)
    (hf : m.fetch = .ok i) : m.pc.toNat ≤ a ∧ a < m.pc.toNat + i.size := by
  cases h with
  | opcode => exact ⟨Nat.le_refl _, Nat.lt_add_of_pos_right i.opcode.size_pos⟩
  | @operand op k ho _ hk =>
    obtain ⟨hi, -⟩ := opcode_of_fetch hf
    obtain rfl := opcode_unique ho hi
    unfold Instruction.size Opcode.size
    omega

/-- What is fetched, or found wrong, depends on the bytes of the instruction alone. -/
theorem fetchPadded_congr {m m' : Machine} (pad pad' : UInt8) (hp : m'.pc = m.pc)
    (hm : ∀ a, m.Fetches a → m'.memory[a]? = m.memory[a]?) :
    m'.fetchPadded pad' = m.fetchPadded pad := by
  have ho := hm _ .opcode
  unfold fetchPadded
  rw [hp]
  simp only [ho]
  cases hb : m.memory[m.pc.toNat]? with
  | none => rfl
  | some byte =>
    cases hop : Opcode.ofByte? byte with
    | none => simp only [hop]
    | some op =>
      obtain rfl := Opcode.eq_toByte_of_ofByte? hop
      by_cases hs : m.pc.toNat + op.size ≤ memorySize
      · have hk (k : Nat) (hk : k < op.operandCount) :
            m'.byteOr pad' (m.pc.toNat + (k + 1)) = m.byteOr pad (m.pc.toNat + (k + 1)) := by
          have ha : m.pc.toNat + (k + 1) < memorySize := by unfold Opcode.size at hs; omega
          apply Option.some.inj
          rw [← m'.getElem?_eq_byteOr pad' ha, ← m.getElem?_eq_byteOr pad ha]
          exact hm _ (.operand hb hs hk)
        simp only [hop, if_neg (Nat.not_lt.2 hs), Instruction.decode_congr (hk 0) (hk 1)]
      · simp only [hop, if_pos (Nat.not_le.1 hs)]

end Machine

end HexMonitor
