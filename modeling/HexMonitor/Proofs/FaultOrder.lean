import HexMonitor.Proofs.Runs

namespace HexMonitor

namespace Opcode

/-- Whether the first operand byte is the number of a register: it is for all operations with two
operand bytes, and for two of those with one. -/
def TakesRegister (op : Opcode) : Prop := op.operandCount = 2 ∨ op = inc ∨ op = dec

def TakesTwoRegisters (op : Opcode) : Prop :=
  op = move ∨ op = add ∨ op = sub ∨ op = and ∨ op = or ∨ op = xor

theorem registerOperands_le_two (op : Opcode) : op.registerOperands ≤ 2 := by
  cases op <;> decide

theorem takesRegister_iff (op : Opcode) : op.TakesRegister ↔ 1 ≤ op.registerOperands := by
  cases op <;> simp [TakesRegister, operandCount, registerOperands]

theorem takesTwoRegisters_iff (op : Opcode) :
    op.TakesTwoRegisters ↔ op.registerOperands = 2 := by
  cases op <;> simp [TakesTwoRegisters, registerOperands]

end Opcode

inductive Defect
  | outside | unassigned | crossing | badFirst | badSecond
  deriving DecidableEq, Repr

def Defect.rank : Defect → Nat
  | outside => 1
  | unassigned => 2
  | crossing => 3
  | badFirst => 4
  | badSecond => 5

namespace Machine

/-- `Shows m d f`: the defect `d` can be found in the instruction at the program counter of `m`,
whatever else is wrong with it, and is told as `f`. -/
inductive Shows (m : Machine) : Defect → Fault → Prop
  | outside (h : 256 ≤ m.pc.toNat) : Shows m .outside (.truncated m.pc)
  | unassigned {byte : UInt8} (hb : m.memory[m.pc.toNat]? = some byte)
      (h : Opcode.ofByte? byte = none) : Shows m .unassigned (.invalidOpcode byte m.pc)
  | crossing {op : Opcode} (ho : m.memory[m.pc.toNat]? = some op.toByte)
      (h : 256 < m.pc.toNat + op.size) : Shows m .crossing (.truncated m.pc)
  | badFirst {op : Opcode} {r : UInt8} (ho : m.memory[m.pc.toNat]? = some op.toByte)
      (hn : op.TakesRegister) (hr : m.memory[m.pc.toNat + 1]? = some r) (h : 8 ≤ r) :
      Shows m .badFirst (.invalidRegister r m.pc)
  | badSecond {op : Opcode} {r : UInt8} (ho : m.memory[m.pc.toNat]? = some op.toByte)
      (hn : op.TakesTwoRegisters) (hr : m.memory[m.pc.toNat + 2]? = some r) (h : 8 ≤ r) :
      Shows m .badSecond (.invalidRegister r m.pc)

/-- `ShowsFirst m f`: of the defects in the instruction at the program counter of `m`, the first is
told as `f`. -/
def ShowsFirst (m : Machine) (f : Fault) : Prop :=
  ∃ d, m.Shows d f ∧ ∀ d' f', d'.rank < d.rank → ¬ m.Shows d' f'

theorem not_shows_outside {m : Machine} {byte : UInt8} (hb : m.memory[m.pc.toNat]? = some byte)
    (f : Fault) : ¬ m.Shows .outside f := by
  rintro (h | _)
  obtain ⟨hl, -⟩ := Vector.getElem?_eq_some_iff.1 hb
  omega

theorem not_shows_unassigned {m : Machine} {op : Opcode}
    (ho : m.memory[m.pc.toNat]? = some op.toByte) (f : Fault) : ¬ m.Shows .unassigned f := by
  rintro (_ | ⟨hb, h⟩)
  cases ho.symm.trans hb
  simp at h

theorem not_shows_crossing {m : Machine} {op : Opcode}
    (ho : m.memory[m.pc.toNat]? = some op.toByte) (hs : m.pc.toNat + op.size ≤ memorySize)
    (f : Fault) : ¬ m.Shows .crossing f := by
  rintro (_ | _ | ⟨ho', h⟩)
  cases opcode_unique ho ho'
  exact Nat.not_lt.2 hs h

theorem not_shows_badFirst {m : Machine} {r : UInt8} (hr : m.memory[m.pc.toNat + 1]? = some r)
    (h : r < 8) (f : Fault) : ¬ m.Shows .badFirst f := by
  rintro (_ | _ | _ | ⟨-, -, hr', h'⟩)
  cases hr.symm.trans hr'
  exact UInt8.not_le.2 h h'

theorem Faults.showsFirst {m : Machine} {f : Fault} (h : m.Faults f) : m.ShowsFirst f := by
  cases h with
  | outside h =>
    refine ⟨.outside, .outside h, ?_⟩
    intro d' f' hd
    cases d' <;> exact absurd hd (by decide)
  | unassigned hb h =>
    refine ⟨.unassigned, .unassigned hb h, ?_⟩
    intro d' f' hd
    cases d' with
    | outside => exact not_shows_outside hb f'
    | unassigned | crossing | badFirst | badSecond => exact absurd hd (by decide)
  | crossing ho h =>
    refine ⟨.crossing, .crossing ho h, ?_⟩
    intro d' f' hd
    cases d' with
    | outside => exact not_shows_outside ho f'
    | unassigned => exact not_shows_unassigned ho f'
    | crossing | badFirst | badSecond => exact absurd hd (by decide)
  | @badFirst op r ho hs hn hr h =>
    refine ⟨.badFirst, .badFirst ho (op.takesRegister_iff.2 hn) hr h, ?_⟩
    intro d' f' hd
    cases d' with
    | outside => exact not_shows_outside ho f'
    | unassigned => exact not_shows_unassigned ho f'
    | crossing => exact not_shows_crossing ho hs f'
    | badFirst | badSecond => exact absurd hd (by decide)
  | @badSecond op r r' ho hs hn hr h hr' h' =>
    refine ⟨.badSecond, .badSecond ho (op.takesTwoRegisters_iff.2 hn) hr' h', ?_⟩
    intro d' f' hd
    cases d' with
    | outside => exact not_shows_outside ho f'
    | unassigned => exact not_shows_unassigned ho f'
    | crossing => exact not_shows_crossing ho hs f'
    | badFirst => exact not_shows_badFirst hr h f'
    | badSecond => exact absurd hd (by decide)

theorem ShowsFirst.faults {m : Machine} {f : Fault} (h : m.ShowsFirst f) : m.Faults f := by
  obtain ⟨d, hd, hfirst⟩ := h
  cases hd with
  | outside h => exact .outside h
  | unassigned hb h => exact .unassigned hb h
  | crossing ho h => exact .crossing ho h
  | @badFirst op r ho hn hr h =>
    have hs : m.pc.toNat + op.size ≤ memorySize :=
      Nat.not_lt.1 fun hs => hfirst .crossing _ (by decide) (.crossing ho hs)
    exact .badFirst ho hs (op.takesRegister_iff.1 hn) hr h
  | @badSecond op r ho hn hr h =>
    have hn' := op.takesTwoRegisters_iff.1 hn
    have hs : m.pc.toNat + op.size ≤ memorySize :=
      Nat.not_lt.1 fun hs => hfirst .crossing _ (by decide) (.crossing ho hs)
    obtain ⟨hl, -⟩ := Vector.getElem?_eq_some_iff.1 hr
    have ha : m.pc.toNat + 1 < memorySize := Nat.lt_of_succ_lt hl
    have hr₁ := m.getElem?_eq_byteOr 0 ha
    have h₁ : m.byteOr 0 (m.pc.toNat + 1) < 8 := by
      refine UInt8.not_le.1 fun h₁ => hfirst .badFirst _ (by decide) (.badFirst ho ?_ hr₁ h₁)
      exact op.takesRegister_iff.2 (by omega)
    exact .badSecond ho hs hn' hr₁ h₁ hr h

theorem step_eq_faulted_iff_showsFirst (m : Machine) (f : Fault) :
    m.step = .faulted f ↔ m.ShowsFirst f :=
  (m.step_eq_faulted_iff f).trans ⟨Faults.showsFirst, ShowsFirst.faults⟩

/-- Where there are defects there is a first one. -/
theorem Shows.exists_showsFirst {m : Machine} {d : Defect} {f : Fault} (h : m.Shows d f) :
    ∃ f', m.ShowsFirst f' := by
  induction hn : d.rank using Nat.strong_induction_on generalizing d f with
  | _ n ih =>
    by_cases hl : ∃ d' f', d'.rank < d.rank ∧ m.Shows d' f'
    · obtain ⟨d', f', hr, h'⟩ := hl
      exact ih d'.rank (hn ▸ hr) h' rfl
    · refine ⟨f, d, h, ?_⟩
      intro d' f' hr h'
      exact hl ⟨d', f', hr, h'⟩

/-- Only the opcode and the registers that it takes decide about a fault. -/
theorem Faults.of_memory {m : Machine} {op : Opcode} {memory : Vector UInt8 256}
    (ho : m.memory[m.pc.toNat]? = some op.toByte)
    (hk : ∀ k, k ≤ op.registerOperands →
      memory[m.pc.toNat + k]? = m.memory[m.pc.toNat + k]?)
    {f : Fault} (h : m.Faults f) : ({ m with memory } : Machine).Faults f := by
  have h₀ : memory[m.pc.toNat]? = m.memory[m.pc.toNat]? := hk 0 (Nat.zero_le _)
  cases h with
  | outside h => exact .outside h
  | unassigned hb h => exact .unassigned (h₀.trans hb) h
  | crossing ho' h => exact .crossing (h₀.trans ho') h
  | badFirst ho' hs hn hr h =>
    cases opcode_unique ho ho'
    exact .badFirst (h₀.trans ho) hs hn ((hk 1 hn).trans hr) h
  | badSecond ho' hs hn hr h hr' h' =>
    cases opcode_unique ho ho'
    exact .badSecond (h₀.trans ho) hs hn ((hk 1 (by omega)).trans hr) h
      ((hk 2 (by omega)).trans hr') h'

/-- Immediate values, jump targets and addresses have no part in a fault. -/
theorem step_setByte_eq_faulted_iff {m : Machine} {op : Opcode} {a : UInt8} (v : UInt8) (f : Fault)
    (ho : m.memory[m.pc.toNat]? = some op.toByte) (h₀ : a.toNat ≠ m.pc.toNat)
    (h₁ : op.TakesRegister → a.toNat ≠ m.pc.toNat + 1)
    (h₂ : op.TakesTwoRegisters → a.toNat ≠ m.pc.toNat + 2) :
    (m.setByte a v).step = .faulted f ↔ m.step = .faulted f := by
  have hk : ∀ k, k ≤ op.registerOperands →
      (m.setByte a v).memory[m.pc.toNat + k]? = m.memory[m.pc.toNat + k]? := by
    intro k hk
    have hc := op.registerOperands_le_two
    rw [op.takesRegister_iff] at h₁
    rw [op.takesTwoRegisters_iff] at h₂
    apply getElem?_setByte
    rcases (by omega : k = 0 ∨ k = 1 ∨ k = 2) with rfl | rfl | rfl
    · exact h₀
    · exact h₁ hk
    · exact h₂ (by omega)
  rw [step_eq_faulted_iff, step_eq_faulted_iff]
  constructor
  · intro h
    exact h.of_memory ((hk 0 (Nat.zero_le _)).trans ho) fun k h => (hk k h).symm
  · intro h
    exact h.of_memory ho hk

theorem run_of_step_faulted {m : Machine} {f : Fault} (h : m.step = .faulted f) :
    m.run = some (.faulted f, { m with status := { faulted := true } }) := by
  have hc : ({ m with status := .clear } : Machine).step = .faulted f := by
    have hw := m.step_with .clear m.cycles
    rwa [h] at hw
  exact (m.run_eq_some_iff _ _).2 ⟨0, _, _, .refl _, .fault hc, rfl⟩

/-- A run that faults has stopped before the instruction that its last state still faults on. -/
theorem exists_advances_of_run_faulted {m m' : Machine} {f : Fault}
    (h : m.run = some (.faulted f, m')) :
    m'.step = .faulted f ∧ ∃ n m₁, Advances n { m with status := .clear } m₁ ∧
      m₁.step = .faulted f ∧ m' = { m₁ with status := { faulted := true } } := by
  refine ⟨(m'.step_eq_faulted_iff f).2 (atRest_of_run h).faults, ?_⟩
  obtain ⟨n, m₁, m₂, ha, hs, rfl⟩ := (m.run_eq_some_iff m' _).1 h
  cases hs with
  | fault hs => exact ⟨n, m₁, ha, hs, rfl⟩

/-- A step faults exactly if there is a defect in its instruction, and tells the first; a byte that
is neither opcode nor register is none. The fault changes nothing but the status, and a run that it
ends has the instruction's state for its last. -/
theorem step_faulted_iff_defect (m : Machine) :
    ((∃ f, m.step = .faulted f) ↔ ∃ d f, m.Shows d f) ∧
    (∀ f, m.step = .faulted f ↔ m.ShowsFirst f) ∧
    (∀ (op : Opcode) (a v : UInt8) (f : Fault), m.memory[m.pc.toNat]? = some op.toByte →
      a.toNat ≠ m.pc.toNat → (op.TakesRegister → a.toNat ≠ m.pc.toNat + 1) →
      (op.TakesTwoRegisters → a.toNat ≠ m.pc.toNat + 2) →
      ((m.setByte a v).step = .faulted f ↔ m.step = .faulted f)) ∧
    (∀ f, m.step = .faulted f →
      m.run = some (.faulted f, { m with status := { faulted := true } })) ∧
    ∀ f m', m.run = some (.faulted f, m') →
      m'.step = .faulted f ∧ ∃ n m₁, Advances n { m with status := .clear } m₁ ∧
        m₁.step = .faulted f ∧ m' = { m₁ with status := { faulted := true } } := by
  refine ⟨⟨?_, ?_⟩, m.step_eq_faulted_iff_showsFirst, ?_, ?_, ?_⟩
  · rintro ⟨f, h⟩
    obtain ⟨d, hd, -⟩ := (m.step_eq_faulted_iff_showsFirst f).1 h
    exact ⟨d, f, hd⟩
  · rintro ⟨d, f, h⟩
    obtain ⟨f', h'⟩ := h.exists_showsFirst
    exact ⟨f', (m.step_eq_faulted_iff_showsFirst f').2 h'⟩
  · intro op a v f ho h₀ h₁ h₂
    exact step_setByte_eq_faulted_iff v f ho h₀ h₁ h₂
  · intro f h
    exact run_of_step_faulted h
  · intro f m' h
    exact exists_advances_of_run_faulted h

/-- At the end of memory: a jump on a register that does not exist, behind an instruction that is
carried out, and an addition whose second operand is missing and whose first does not exist. -/
theorem step_faulted_at_end :
    let m : Machine :=
      { (((Machine.zero.setByte 251 0x32).setByte 253 0x03).setByte 254 0x09) with pc := 253 }
    let m' : Machine := { (Machine.zero.setByte 254 0x30).setByte 255 0x09 with pc := 254 }
    m.step = .faulted (.invalidRegister 9 253) ∧
      (m.setByte 255 0x40).step = .faulted (.invalidRegister 9 253) ∧
      m.run = some (.faulted (.invalidRegister 9 253), { m with status := { faulted := true } }) ∧
      (∃ s, ({ m with pc := 251 } : Machine).run = some (.faulted (.invalidRegister 9 253), s) ∧
        s.step = .faulted (.invalidRegister 9 253)) ∧
      m'.Shows .badFirst (.invalidRegister 9 254) ∧ m'.ShowsFirst (.truncated 254) := by
  intro m m'
  have hs : m.step = .faulted (.invalidRegister 9 253) := by decide +kernel
  have ho : m.memory[m.pc.toNat]? = some Opcode.jumpZero.toByte := by decide +kernel
  have hr : (({ m with pc := 251 } : Machine).run.any fun r =>
      r.1 = .faulted (.invalidRegister 9 253)) = true := by decide +kernel
  obtain ⟨⟨stop, s⟩, hr, he⟩ := (Option.any_eq_true _ _).1 hr
  cases of_decide_eq_true he
  have hs' : m'.step = .faulted (.truncated 254) := by decide +kernel
  have ho' : m'.memory[m'.pc.toNat]? = some Opcode.add.toByte := by decide +kernel
  have h₀ : (255 : UInt8).toNat ≠ m.pc.toNat := by decide
  have h₁ : Opcode.jumpZero.TakesRegister → (255 : UInt8).toNat ≠ m.pc.toNat + 1 :=
    fun _ => by decide
  have h₂ : Opcode.jumpZero.TakesTwoRegisters → (255 : UInt8).toNat ≠ m.pc.toNat + 2 := by
    simp [Opcode.TakesTwoRegisters]
  obtain ⟨-, -, himm, hrun, -⟩ := step_faulted_iff_defect m
  refine ⟨hs, (himm .jumpZero 255 0x40 _ ho h₀ h₁ h₂).2 hs, hrun _ hs, ⟨s, hr, ?_⟩, ?_, ?_⟩
  · obtain ⟨-, -, -, -, hlast⟩ := step_faulted_iff_defect { m with pc := 251 }
    exact (hlast _ s hr).1
  · exact .badFirst ho' (.inl rfl) (by decide +kernel) (by decide)
  · exact ((step_faulted_iff_defect m').2.1 _).1 hs'

end Machine

end HexMonitor
