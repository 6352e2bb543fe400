import Mathlib.Control.Monad.Basic
import HexMonitor.Proofs.Code

namespace HexMonitor

/-- A computation that may raise a fault, and that has no outcome at all where an index or a sum
goes out of range. -/
abbrev Checked := ExceptT Fault Option

def Machine.Step.outcome : Step → Except Fault Step
  | faulted fault => .error fault
  | step => .ok step

namespace Machine

def checkedRegister (m : Machine) (i : Nat) : Checked UInt8 := ExceptT.lift m.registers[i]?

def checkedByte (m : Machine) (i : Nat) : Checked UInt8 := ExceptT.lift m.memory[i]?

def checkedSetRegister (m : Machine) (i : Nat) (value : UInt8) : Checked Machine :=
  if h : i < 8 then return { m with registers := m.registers.set i value h }
  else ExceptT.mk none

def checkedSetByte (m : Machine) (i : Nat) (value : UInt8) : Checked Machine :=
  if h : i < 256 then return { m with memory := m.memory.set i value h }
  else ExceptT.mk none

def checkedSum (a b : UInt16) : Checked UInt16 :=
  if a.toNat + b.toNat ≤ 65535 then return a + b else ExceptT.mk none

def registerIndex (m : Machine) (number : UInt8) : Checked Nat :=
  if number.toNat < registerCount then return number.toNat
  else throw (.invalidRegister number m.pc)

def goOn (m : Machine) (next : UInt16) : Step := .next { m.retire with pc := next }

def adjust (m : Machine) (a : UInt8) (f : UInt8 → UInt8) (next : UInt16) : Checked Step := do
  let r ← m.registerIndex a
  return (← m.checkedSetRegister r (f (← m.checkedRegister r))).goOn next

def combine (m : Machine) (a b : UInt8) (f : UInt8 → UInt8 → UInt8) (next : UInt16) :
    Checked Step := do
  let dst ← m.registerIndex a
  let src ← m.registerIndex b
  let value := f (← m.checkedRegister dst) (← m.checkedRegister src)
  return (← m.checkedSetRegister dst value).goOn next

/-- An operation with two operand bytes, where `next` is the address behind the instruction. -/
def branch (m : Machine) (op : Opcode) (a b : UInt8) (next : UInt16) : Checked Step :=
  match op with
  | .halt => return .halted m.retire
  | .nop => return m.goOn next
  | .jump => return m.goOn a.toUInt16
  | .jumpZero => do
    let value ← m.checkedRegister (← m.registerIndex a)
    return m.goOn (if value = 0 then b.toUInt16 else next)
  | .jumpNotZero => do
    let value ← m.checkedRegister (← m.registerIndex a)
    return m.goOn (if value ≠ 0 then b.toUInt16 else next)
  | .loadImm => do
    let dst ← m.registerIndex a
    return (← m.checkedSetRegister dst b).goOn next
  | .move => do
    let dst ← m.registerIndex a
    let src ← m.registerIndex b
    return (← m.checkedSetRegister dst (← m.checkedRegister src)).goOn next
  | .load => do
    let dst ← m.registerIndex a
    return (← m.checkedSetRegister dst (← m.checkedByte b.toNat)).goOn next
  | .store => do
    let src ← m.registerIndex a
    return (← m.checkedSetByte b.toNat (← m.checkedRegister src)).goOn next
  | .add => m.combine a b (· + ·) next
  | .sub => m.combine a b (· - ·) next
  | .inc => m.adjust a (· + 1) next
  | .dec => m.adjust a (· - 1) next
  | .and => m.combine a b (· &&& ·) next
  | .or => m.combine a b (· ||| ·) next
  | .xor => m.combine a b (· ^^^ ·) next

/-- One instruction with every index and every sum checked. Both operand bytes are fetched whatever
the operation is, and are `pad` past the end of memory. -/
def stepChecked (pad : UInt8) (m : Machine) : Checked Step :=
  if memorySize ≤ m.pc.toNat then throw (.truncated m.pc)
  else do
    let byte ← m.checkedByte m.pc.toNat
    match Opcode.ofByte? byte with
    | none => throw (.invalidOpcode byte m.pc)
    | some op =>
      if memorySize < m.pc.toNat + op.size then throw (.truncated m.pc)
      else do
        let next ← checkedSum m.pc (.ofNat op.size)
        m.branch op (m.byteOr pad (m.pc.toNat + 1)) (m.byteOr pad (m.pc.toNat + 2)) next

def outcomeOf (m : Machine) (op : Opcode) (a b : UInt8) : Except Fault Step :=
  (Instruction.decode op a b).mapError (Fault.invalidRegister · m.pc) >>= fun i =>
    (m.perform i).outcome

end Machine

/-- `op.Uses pc k`: at the address `pc` the operation takes its operand byte `k` into account. In
some state, two operands that differ there alone come to different outcomes. -/
def Opcode.Uses (op : Opcode) (pc : UInt16) (k : Nat) : Prop :=
  ∃ (m : Machine) (x y : Nat → UInt8), m.pc = pc ∧ (∀ j, j ≠ k → x j = y j) ∧
    m.outcomeOf op (x 0) (x 1) ≠ m.outcomeOf op (y 0) (y 1)

namespace Machine

variable (m : Machine)

theorem checkedRegister_eq (r : Register) : m.checkedRegister r = pure (m.register r) := by
  have hr : m.registers[r.val]? = some (m.register r) := Vector.getElem?_eq_getElem r.isLt
  rw [checkedRegister, hr]
  rfl

theorem checkedSetRegister_eq (r : Register) (value : UInt8) :
    m.checkedSetRegister r value = pure (m.setRegister r value) :=
  dif_pos r.isLt

theorem checkedByte_eq (a : UInt8) : m.checkedByte a.toNat = pure (m.byteAt a) := by
  have ha : m.memory[a.toNat]? = some (m.byteAt a) := Vector.getElem?_eq_getElem a.toFin.isLt
  rw [checkedByte, ha]
  rfl

theorem checkedSetByte_eq (a value : UInt8) :
    m.checkedSetByte a.toNat value = pure (m.setByte a value) :=
  dif_pos a.toNat_lt

theorem registerIndex_of_ok {number : UInt8} {r : Register} (h : Register.ofByte number = .ok r) :
    m.registerIndex number = pure r.val := by
  unfold Register.ofByte at h
  split at h
  · rename_i hr
    cases h
    exact if_pos hr
  · cases h

theorem registerIndex_of_error {number number' : UInt8}
    (h : Register.ofByte number = .error number') :
    m.registerIndex number = throw (.invalidRegister number' m.pc) := by
  unfold Register.ofByte at h
  split at h
  · cases h
  · rename_i hr
    cases h
    exact if_neg hr

theorem outcomeOf_of_decode {op : Opcode} {a b : UInt8} {i : Instruction}
    (h : Instruction.decode op a b = .ok i) : m.outcomeOf op a b = (m.perform i).outcome := by
  rw [outcomeOf, h]
  rfl

theorem outcomeOf_of_decode_error {op : Opcode} {a b number : UInt8}
    (h : Instruction.decode op a b = .error number) :
    m.outcomeOf op a b = .error (.invalidRegister number m.pc) := by
  rw [outcomeOf, h]
  rfl

theorem successor_jumpZero (r : Register) (target : UInt8) :
    (Instruction.jumpZero r target).successor m =
      if m.register r = 0 then target.toUInt16 else m.pc + .ofNat Opcode.jumpZero.size := by
  by_cases h : m.register r = 0
  · simp only [Instruction.successor, Instruction.takenTarget?, h, if_true]
  · simp only [Instruction.successor, Instruction.takenTarget?, h, if_false]
    rfl

theorem successor_jumpNotZero (r : Register) (target : UInt8) :
    (Instruction.jumpNotZero r target).successor m =
      if m.register r ≠ 0 then target.toUInt16 else m.pc + .ofNat Opcode.jumpNotZero.size := by
  by_cases h : m.register r = 0
  · simp only [Instruction.successor, Instruction.takenTarget?, h, if_true, ne_eq, not_true,
      if_false]
    rfl
  · simp only [Instruction.successor, Instruction.takenTarget?, h, if_false, ne_eq, not_false_iff,
      if_true]

/-- An operation stays in range, and comes to what the instruction does that is decoded from its
operand bytes. -/
theorem branch_eq (op : Opcode) (a b : UInt8) :
    m.branch op a b (m.pc + .ofNat op.size) = ExceptT.mk (some (m.outcomeOf op a b)) := by
  cases op with
  | halt | nop | jump => rfl
  | jumpZero | jumpNotZero | loadImm | load | store | inc | dec =>
    cases ha : Register.ofByte a with
    | error number =>
      simp only [branch, adjust, registerIndex_of_error m ha, outcomeOf, Instruction.decode, ha]
      rfl
    | ok r =>
      simp only [branch, adjust, registerIndex_of_ok m ha, pure_bind, checkedRegister_eq,
        checkedSetRegister_eq, checkedByte_eq, checkedSetByte_eq, ← successor_jumpZero,
        ← successor_jumpNotZero, outcomeOf, Instruction.decode, ha]
      rfl
  | move | add | sub | and | or | xor =>
    cases ha : Register.ofByte a with
    | error number =>
      simp only [branch, combine, registerIndex_of_error m ha, outcomeOf, Instruction.decode, ha]
      rfl
    | ok d =>
      cases hb : Register.ofByte b with
      | error number =>
        simp only [branch, combine, registerIndex_of_ok m ha, registerIndex_of_error m hb,
          pure_bind, outcomeOf, Instruction.decode, ha, hb]
        rfl
      | ok s =>
        simp only [branch, combine, registerIndex_of_ok m ha, registerIndex_of_ok m hb, pure_bind,
          checkedRegister_eq, checkedSetRegister_eq, outcomeOf, Instruction.decode, ha, hb]
        rfl

theorem checkedSum_eq {a b : UInt16} (h : a.toNat + b.toNat ≤ 65535) :
    checkedSum a b = pure (a + b) :=
  if_pos h

/-- An instruction that begins in memory ends, if not there, not far behind. -/
theorem pc_add_size_le {m : Machine} {op : Opcode} (ho : m.memory[m.pc.toNat]? = some op.toByte) :
    m.pc.toNat + op.size ≤ 258 := by
  obtain ⟨hp, -⟩ := Vector.getElem?_eq_some_iff.1 ho
  have hs := op.size_le
  omega

/-- With every index and every sum checked, a step has the outcome that it has without. -/
theorem stepChecked_eq (pad : UInt8) :
    m.stepChecked pad = ExceptT.mk (some (m.stepPadded pad).outcome) := by
  unfold stepChecked stepPadded fetchPadded
  by_cases hp : memorySize ≤ m.pc.toNat
  · have hb : m.memory[m.pc.toNat]? = none := Vector.getElem?_eq_none hp
    simp only [hp, if_true, hb]
    rfl
  · obtain ⟨byte, hb⟩ : ∃ byte, m.memory[m.pc.toNat]? = some byte :=
      ⟨_, Vector.getElem?_eq_getElem (Nat.not_le.1 hp)⟩
    have hc : m.checkedByte m.pc.toNat = pure byte := by
      rw [checkedByte, hb]
      rfl
    simp only [hp, if_false, hc, pure_bind, hb]
    cases ho : Opcode.ofByte? byte with
    | none => rfl
    | some op =>
      obtain rfl := Opcode.eq_toByte_of_ofByte? ho
      by_cases hs : memorySize < m.pc.toNat + op.size
      · simp only [hs, if_true]
        rfl
      · have hsum : m.pc.toNat + (UInt16.ofNat op.size).toNat ≤ 65535 := by
          have hle := pc_add_size_le hb
          rw [UInt16.toNat_ofNat']
          omega
        simp only [hs, if_false, checkedSum_eq hsum, pure_bind, branch_eq]
        cases hd : Instruction.decode op (m.byteOr pad (m.pc.toNat + 1))
            (m.byteOr pad (m.pc.toNat + 2)) with
        | error number =>
          rw [m.outcomeOf_of_decode_error hd]
          rfl
        | ok i =>
          rw [m.outcomeOf_of_decode hd]
          rfl

/-- No byte of an instruction lies past the end of memory, so that none of them is a filler. -/
theorem stepPadded_eq (pad : UInt8) : m.stepPadded pad = m.step := by
  rw [step, stepPadded, stepPadded, fetchPadded_congr 0 pad rfl fun _ _ => rfl]

theorem outcome_perform {i : Instruction} (h : i ≠ .halt) :
    (m.perform i).outcome = .ok (.next { (i.effect m).retire with pc := i.successor m }) := by
  cases i <;> first | rfl | exact absurd rfl h

theorem outcome_perform_ne_error (i : Instruction) (f : Fault) :
    (m.perform i).outcome ≠ .error f := by
  intro h
  cases i <;> cases h

/-- Outcomes differ if something that can be seen of the state afterwards does. -/
theorem outcome_perform_ne {i j : Instruction} (hi : i ≠ .halt) (hj : j ≠ .halt) {α : Type}
    (view : Machine → α)
    (h : view { (i.effect m).retire with pc := i.successor m } ≠
      view { (j.effect m).retire with pc := j.successor m }) :
    (m.perform i).outcome ≠ (m.perform j).outcome := by
  rw [outcome_perform m hi, outcome_perform m hj]
  intro he
  exact h (congrArg view (Step.next.inj (Except.ok.inj he)))

def sample (pc : UInt16) : Machine :=
  ({ Machine.zero with registers := #v[0, 3, 0, 0, 0, 0, 0, 0], pc }.setByte 0 1).setByte 8 2

theorem byteAt_sample_zero (pc : UInt16) : (sample pc).byteAt 0 = 1 := by
  rw [sample, byteAt_setByte_ne _ (by decide), byteAt_setByte_self]

theorem byteAt_sample_eight (pc : UInt16) : (sample pc).byteAt 8 = 2 := byteAt_setByte_self _ 8 2

end Machine

namespace Opcode

open Machine

variable {op : Opcode} {a b : UInt8}

theorem uses_first (m : Machine) (a' : UInt8)
    (h : m.outcomeOf op a b ≠ m.outcomeOf op a' b) : op.Uses m.pc 0 := by
  refine ⟨m, fun j => [a, b].getD j 0, fun j => [a', b].getD j 0, rfl, ?_, h⟩
  intro j hj
  obtain ⟨j, rfl⟩ := Nat.exists_eq_succ_of_ne_zero hj
  rfl

theorem uses_second (m : Machine) (b' : UInt8)
    (h : m.outcomeOf op a b ≠ m.outcomeOf op a b') : op.Uses m.pc 1 := by
  refine ⟨m, fun j => [a, b].getD j 0, fun j => [a, b'].getD j 0, rfl, ?_, h⟩
  intro j hj
  rcases j with _ | _ | j
  · rfl
  · exact absurd rfl hj
  · rfl

theorem uses_zero_of_operandCount (op : Opcode) (pc : UInt16) (h : 0 < op.operandCount) :
    op.Uses pc 0 := by
  by_cases hr : 1 ≤ op.registerOperands
  · -- The number of a register, or one that names none.
    obtain ⟨i, hi, -⟩ := @Instruction.decode_registers op 0 0 (fun _ => by decide)
      (fun _ => by decide)
    apply uses_first (sample pc) 8
    rw [outcomeOf_of_decode _ hi,
      outcomeOf_of_decode_error _ (Instruction.decode_badFirst 0 hr (by decide))]
    exact outcome_perform_ne_error _ i _
  · cases op with
    | halt | nop => cases h
    | jump =>
      apply @uses_first .jump 0 0 (sample pc) 8
      apply @outcome_perform_ne _ (.jump 0) (.jump 8) (by simp) (by simp) _ (·.pc)
      show (0 : UInt16) ≠ 8
      decide
    | _ => exact absurd (by decide) hr

theorem uses_one_of_operandCount (op : Opcode) (pc : UInt16) (h : 1 < op.operandCount) :
    op.Uses pc 1 := by
  by_cases hr : op.registerOperands = 2
  · obtain ⟨i, hi, -⟩ := @Instruction.decode_registers op 0 0 (fun _ => by decide)
      (fun _ => by decide)
    apply uses_second (sample pc) 8
    rw [outcomeOf_of_decode _ hi,
      outcomeOf_of_decode_error _ (Instruction.decode_badSecond hr (by decide) (by decide))]
    exact outcome_perform_ne_error _ i _
  · cases op with
    | halt | nop | jump | inc | dec => exact absurd h (by decide)
    | jumpZero =>
      apply @uses_second .jumpZero 0 0 (sample pc) 8
      apply @outcome_perform_ne _ (.jumpZero 0 0) (.jumpZero 0 8) (by simp) (by simp) _ (·.pc)
      show (0 : UInt16) ≠ 8
      decide
    | jumpNotZero =>
      apply @uses_second .jumpNotZero 1 0 (sample pc) 8
      apply @outcome_perform_ne _ (.jumpNotZero 1 0) (.jumpNotZero 1 8) (by simp) (by simp) _ (·.pc)
      show (0 : UInt16) ≠ 8
      decide
    | loadImm =>
      apply @uses_second .loadImm 0 0 (sample pc) 8
      apply @outcome_perform_ne _ (.loadImm 0 0) (.loadImm 0 8) (by simp) (by simp) _ (·.register 0)
      show (0 : UInt8) ≠ 8
      decide
    | load =>
      apply @uses_second .load 0 0 (sample pc) 8
      apply @outcome_perform_ne _ (.load 0 0) (.load 0 8) (by simp) (by simp) _ (·.register 0)
      show (sample pc).byteAt 0 ≠ (sample pc).byteAt 8
      rw [byteAt_sample_zero, byteAt_sample_eight]
      decide
    | store =>
      apply @uses_second .store 1 0 (sample pc) 8
      apply @outcome_perform_ne _ (.store 1 0) (.store 1 8) (by simp) (by simp) _ (·.byteAt 0)
      show ((sample pc).setByte 0 3).byteAt 0 ≠ ((sample pc).setByte 8 3).byteAt 0
      rw [byteAt_setByte_self, byteAt_setByte_ne _ (by decide), byteAt_sample_zero]
      decide
    | _ => exact absurd rfl hr

/-- An operation uses the operand bytes that it has, wherever it stands. -/
theorem uses_iff (op : Opcode) (pc : UInt16) (k : Nat) : op.Uses pc k ↔ k < op.operandCount := by
  constructor
  · rintro ⟨m, x, y, rfl, hxy, hne⟩
    apply Nat.not_le.1
    intro hk
    have hd : Instruction.decode op (x 0) (x 1) = Instruction.decode op (y 0) (y 1) :=
      Instruction.decode_congr (fun _ => hxy 0 (by omega)) (fun _ => hxy 1 (by omega))
    rw [outcomeOf, outcomeOf, hd] at hne
    exact hne rfl
  · intro hk
    have h₂ : op.operandCount ≤ 2 := by cases op <;> decide
    rcases (by omega : k = 0 ∨ k = 1) with rfl | rfl
    · exact op.uses_zero_of_operandCount pc hk
    · exact op.uses_one_of_operandCount pc hk

end Opcode

namespace Machine

/-- An operation that is carried out has its operand bytes in memory. -/
theorem operand_lt_of_uses {m : Machine} {op : Opcode} {k : Nat}
    (ho : m.memory[m.pc.toNat]? = some op.toByte) (ht : m.step ≠ .faulted (.truncated m.pc))
    (hk : op.Uses m.pc k) : m.pc.toNat + (k + 1) < 256 := by
  have hs : m.pc.toNat + op.size ≤ memorySize := by
    apply Nat.not_lt.1
    intro hs
    exact ht ((m.step_eq_faulted_iff _).2 (.crossing ho hs))
  have hc := (op.uses_iff m.pc k).1 hk
  unfold Opcode.size memorySize at hs
  omega

/-- A step with every index and every sum checked never goes out of range, and is the step without,
whatever stands in for the bytes past the end of memory. The address behind an instruction is a
word; an operation that is carried out has the operand bytes that it uses in memory, and uses all
that it has. -/
theorem step_in_range (m : Machine) :
    (∀ pad, (m.stepChecked pad).run = some m.step.outcome ∧ m.stepPadded pad = m.step) ∧
    (∀ op : Opcode, m.memory[m.pc.toNat]? = some op.toByte →
      m.pc.toNat + op.size ≤ 65535 ∧
      (m.step ≠ .faulted (.truncated m.pc) →
        ∀ k, op.Uses m.pc k → m.pc.toNat + (k + 1) < 256)) ∧
    ∀ (op : Opcode) (pc : UInt16) (k : Nat), op.Uses pc k ↔ k < op.operandCount := by
  refine ⟨fun pad => ⟨?_, m.stepPadded_eq pad⟩, fun op ho => ⟨?_, ?_⟩, Opcode.uses_iff⟩
  · rw [stepChecked_eq, stepPadded_eq]
    rfl
  · exact Nat.le_trans (pc_add_size_le ho) (by decide)
  · intro ht k hk
    exact operand_lt_of_uses ho ht hk

/-- An increment in the last two bytes of memory has its only operand byte in the last one; a halt
in the last byte has none. What is fetched from behind them has no part in either. -/
theorem step_in_range_at_end :
    let m : Machine := { (Machine.zero.setByte 254 0x32).setByte 255 0x03 with pc := 254 }
    let m' : Machine := { Machine.zero with pc := 255 }
    (∃ s, (m.stepChecked 0x99).run = some (.ok (.next s)) ∧ m.stepPadded 0x99 = .next s ∧
        m.step = .next s ∧ s.pc = 256 ∧ s.register 3 = 1) ∧
      m.pc.toNat + (0 + 1) < 256 ∧ ¬ Opcode.inc.Uses 254 1 ∧
      m'.stepPadded 0x99 = .halted m'.retire := by
  intro m m'
  have hf : m.fetch = .ok (.inc 3) := by decide +kernel
  have hf' : m'.fetch = .ok .halt := by decide +kernel
  have ho : m.memory[m.pc.toNat]? = some Opcode.inc.toByte := by decide +kernel
  obtain ⟨s, hs, hp, hr⟩ : ∃ s, m.step = .next s ∧ s.pc = 256 ∧ s.register 3 = 1 :=
    ⟨_, (m.step_eq_next_iff _).2 ⟨.inc 3, hf, by decide, rfl⟩, by decide +kernel, by decide +kernel⟩
  have hs' : m'.step = .halted m'.retire := (m'.step_eq_halted_iff _).2 ⟨hf', rfl⟩
  have ht : m.step ≠ .faulted (.truncated m.pc) := by simp [hs]
  obtain ⟨hpad, hop, huses⟩ := step_in_range m
  refine ⟨⟨s, ?_, (hpad 0x99).2.trans hs, hs, hp, hr⟩, (hop .inc ho).2 ht 0 ?_, ?_, ?_⟩
  · rw [(hpad 0x99).1, hs]
    rfl
  · exact (huses .inc 254 0).2 (by decide)
  · intro h
    exact absurd ((huses .inc 254 1).1 h) (by decide)
  · exact ((step_in_range m').1 0x99).2.trans hs'

end Machine

end HexMonitor
