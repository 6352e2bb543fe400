import HexMonitor.Proofs.Code
import HexMonitor.Proofs.CycleCounts
import HexMonitor.Proofs.Meaning
import HexMonitor.Proofs.Refusal

namespace HexMonitor

namespace Instruction

def isStraight : Instruction → Bool
  | halt | jump _ | jumpZero .. | jumpNotZero .. => false
  | nop | loadImm .. | move .. | load .. | store .. | add .. | sub .. | inc _ | dec _ | and ..
  | or .. | xor .. => true

def encodeAll (is : List Instruction) : Bytes := is.flatMap encode

@[simp] theorem encodeAll_nil : encodeAll [] = [] := rfl

@[simp] theorem encodeAll_cons (i : Instruction) (is : List Instruction) :
    encodeAll (i :: is) = i.encode ++ encodeAll is := rfl

theorem encodeAll_append (is js : List Instruction) :
    encodeAll (is ++ js) = encodeAll is ++ encodeAll js := List.flatMap_append

/-- No instruction is shorter than its opcode. -/
theorem length_le_length_encodeAll (is : List Instruction) :
    is.length ≤ (encodeAll is).length := by
  induction is with
  | nil => exact Nat.le_refl 0
  | cons i is ih =>
    rw [encodeAll_cons, encode, List.cons_append, List.length_cons, List.length_cons,
      List.length_append]
    omega

theorem takenTarget?_eq_none {i : Instruction} (h : i.isStraight) (m : Machine) :
    i.takenTarget? m = none := by
  cases i <;> first | rfl | cases h

end Instruction

namespace Machine

/-- Passes an instruction: it takes effect and is counted, and control falls through. -/
def pass (m : Machine) (i : Instruction) : Machine :=
  { (i.effect m).retire with pc := m.pc + .ofNat i.size }

def passAll (m : Machine) (is : List Instruction) : Machine := is.foldl pass m

@[simp] theorem passAll_cons (m : Machine) (i : Instruction) (is : List Instruction) :
    m.passAll (i :: is) = (m.pass i).passAll is := rfl

theorem step_of_holds {m : Machine} {i : Instruction} (hi : i.isStraight)
    (h : m.Holds m.pc.toNat i.encode) : m.step = .next (m.pass i) := by
  apply (m.step_eq_next_iff _).2
  refine ⟨i, h.fetch_eq, ?_, ?_⟩
  · rintro rfl
    cases hi
  · rw [Instruction.successor, Instruction.takenTarget?_eq_none hi m]
    rfl

theorem cells_passAll (m : Machine) (is : List Instruction) :
    (m.passAll is).cells = is.foldl (fun c i => i.meaning c) m.cells := by
  induction is generalizing m with
  | nil => rfl
  | cons i is ih =>
    have hc : (m.pass i).cells = i.meaning m.cells := m.cells_effect i
    rw [passAll_cons, ih, hc, List.foldl_cons]

theorem pc_passAll (m : Machine) (is : List Instruction) :
    (m.passAll is).pc = m.pc + .ofNat (Instruction.encodeAll is).length := by
  induction is generalizing m with
  | nil => exact (UInt16.add_zero _).symm
  | cons i is ih =>
    have hp : (m.pass i).pc = m.pc + .ofNat i.size := rfl
    rw [passAll_cons, ih, hp, UInt16.add_assoc, Instruction.encodeAll_cons, List.length_append,
      i.length_encode, UInt16.ofNat_add]

/-- A byte keeps its value where nothing is stored. -/
theorem memory_pass {m : Machine} {i : Instruction} {k : Nat}
    (h : ∀ r a, i = .store r a → a.toNat ≠ k) : (m.pass i).memory[k]? = m.memory[k]? := by
  cases i with
  | store r a => exact getElem?_setByte _ (h r a rfl)
  | _ => rfl

theorem memory_passAll {m : Machine} {is : List Instruction} {k : Nat}
    (h : ∀ r a, .store r a ∈ is → a.toNat ≠ k) :
    (m.passAll is).memory[k]? = m.memory[k]? := by
  induction is generalizing m with
  | nil => rfl
  | cons i is ih =>
    have hi : (m.pass i).memory[k]? = m.memory[k]? := by
      apply memory_pass
      rintro r a rfl
      exact h r a (by simp)
    rw [passAll_cons, ih fun r a hm => h r a (by simp [hm]), hi]

/-- Straight-line code that does not store into itself is passed instruction by instruction. -/
theorem advances_passAll {m : Machine} {is : List Instruction} (hi : ∀ i ∈ is, i.isStraight)
    (hm : m.Holds m.pc.toNat (Instruction.encodeAll is))
    (ha : ∀ r a, .store r a ∈ is → m.pc.toNat + (Instruction.encodeAll is).length ≤ a.toNat) :
    Advances is.length m (m.passAll is) := by
  induction is generalizing m with
  | nil => exact .refl m
  | cons i is ih =>
    rw [Instruction.encodeAll_cons] at hm ha
    rw [List.length_append, i.length_encode] at ha
    have hr := hm.right
    rw [i.length_encode] at hr
    -- The program counter does not wrap around: the instruction ends inside memory.
    have hp : (m.pass i).pc.toNat = m.pc.toNat + i.size := by
      have hl := hm.left.end_le (List.cons_ne_nil _ _)
      rw [i.length_encode] at hl
      unfold memorySize at hl
      simp only [pass, UInt16.toNat_add, UInt16.toNat_ofNat']
      omega
    apply Advances.step (step_of_holds (hi i (by simp)) hm.left)
    apply ih
    · intro j hj
      exact hi j (by simp [hj])
    · rw [hp]
      apply hr.of_memory_eq
      intro k hk
      apply memory_pass
      rintro r a rfl
      have hb := ha r a (by simp)
      omega
    · intro r a hmem
      have hb := ha r a (by simp [hmem])
      omega

theorem run_of_advances {n : Nat} {m m₁ m₂ : Machine} {stop : Stop} (hc : m.status = .clear)
    (h : Advances n m m₁) (hs : StopsWith m₁ stop m₂) :
    m.run = some (stop, { m₂ with status := stop.status }) := by
  have hm : ({ m with status := .clear } : Machine) = m := by rw [← hc]
  exact (m.run_eq_some_iff _ stop).2 ⟨n, m₁, m₂, hm.symm ▸ h, hs, rfl⟩

/-- A zero at the program counter halts. -/
theorem stopsWith_halted {m : Machine} (h : m.memory[m.pc.toNat]? = some 0) :
    StopsWith m .halted m.retire := by
  have hm : m.Holds m.pc.toNat Instruction.halt.encode := by
    intro k byte hk
    cases k with
    | zero =>
      cases hk
      exact h
    | succ k => cases hk
  exact .halt ((m.step_eq_halted_iff _).2 ⟨hm.fetch_eq, rfl⟩)

theorem stopsWith_outside {m : Machine} (h : m.pc = 256) :
    StopsWith m (.faulted (.truncated 256)) m := by
  apply StopsWith.fault
  apply (m.step_eq_faulted_iff _).2
  have hf := Faults.outside (m := m) (by rw [h]; exact Nat.le_refl 256)
  rwa [h] at hf

theorem holds_imageOf {program : Bytes} (h : program.length ≤ memorySize) :
    ({ zero with memory := imageOf program } : Machine).Holds 0 program := by
  intro k byte hk
  obtain ⟨hl, -⟩ := List.getElem?_eq_some_iff.1 hk
  have hm : k < 256 := Nat.lt_of_lt_of_le hl h
  simp [imageOf, hm, hk]

end Machine

namespace Session

open Instruction

/-- The execution of a program that was just loaded counts all that the machine counts. -/
theorem execute_loaded {program : Bytes} {n : Nat} {m₁ m₂ : Machine} {stop : Stop}
    (h : Machine.Advances n (loaded program).machine m₁) (hs : Machine.StopsWith m₁ stop m₂) :
    (loaded program).execute =
      some (⟨m₂.cycles, stop.fault?⟩, ⟨{ m₂ with status := stop.status }, .executed⟩) := by
  have hc : m₂.cycles - (loaded program).machine.cycles = m₂.cycles := UInt32.sub_zero _
  rw [execute_of_run (Machine.run_of_advances rfl h hs), hc]

/-- A straight-line program that was loaded leads right behind its end, where the image has a zero if
it is not filled. -/
theorem exists_advances_loaded {is : List Instruction} (hi : ∀ i ∈ is, i.isStraight)
    (hl : (encodeAll is).length ≤ 256)
    (ha : ∀ r a, .store r a ∈ is → (encodeAll is).length < a.toNat) :
    ∃ m, Machine.Advances is.length (loaded (encodeAll is)).machine m ∧
      m.cells = is.foldl (fun c i => i.meaning c) (Cells.ofProgram (encodeAll is)) ∧
      m.pc.toNat = (encodeAll is).length ∧ m.cycles.toNat = is.length ∧
      ((encodeAll is).length < 256 → m.memory[m.pc.toNat]? = some 0) := by
  have hpc : ((loaded (encodeAll is)).machine.passAll is).pc.toNat = (encodeAll is).length := by
    have hp : (loaded (encodeAll is)).machine.pc = 0 := rfl
    rw [Machine.pc_passAll, hp, UInt16.zero_add, UInt16.toNat_ofNat']
    omega
  have hadv : Machine.Advances is.length (loaded (encodeAll is)).machine
      ((loaded (encodeAll is)).machine.passAll is) := by
    apply Machine.advances_passAll hi (Machine.holds_imageOf hl)
    intro r a hm
    have hb := ha r a hm
    change 0 + (encodeAll is).length ≤ a.toNat
    omega
  refine ⟨(loaded (encodeAll is)).machine.passAll is, hadv, ?_, hpc, ?_, ?_⟩
  · rw [Machine.cells_passAll, loaded, Machine.cells_imageOf]
  · have hc : (loaded (encodeAll is)).machine.cycles = 0 := rfl
    have hn := length_le_length_encodeAll is
    rw [hadv.cycles_eq, hc, UInt32.zero_add, UInt32.toNat_ofNat']
    omega
  · intro hlt
    rw [hpc, Machine.memory_passAll fun r a hm => (Nat.ne_of_lt (ha r a hm)).symm]
    simp [loaded, Machine.imageOf, hlt]

/-- A straight-line program that stores nothing into itself or right behind itself is carried out to
its last instruction: it leaves the registers and the memory that the meanings of its instructions
make of zeros and its image. It then halts on the zero behind it; or it faults, if it fills
memory. -/
theorem execute_straightLine (is : List Instruction) (hi : ∀ i ∈ is, i.isStraight)
    (hl : (encodeAll is).length ≤ 256)
    (ha : ∀ r a, .store r a ∈ is → (encodeAll is).length < a.toNat) :
    ∃ s execution s', load (encodeAll is) = .ok s ∧ s.execute = some (execution, s') ∧
      s'.machine.cells =
        is.foldl (fun c i => i.meaning c) (Cells.ofProgram (encodeAll is)) ∧
      ((encodeAll is).length < 256 → execution.fault? = none ∧
        execution.retired.toNat = is.length + 1 ∧ s'.machine.pc.toNat = (encodeAll is).length) ∧
      ((encodeAll is).length = 256 → execution.fault? = some (.truncated 256) ∧
        execution.retired.toNat = is.length ∧ s'.machine.pc = 256) := by
  have hp : programOfBytes? (encodeAll is) = some (encodeAll is) := if_pos hl
  have hn := length_le_length_encodeAll is
  obtain ⟨m, hadv, hcells, hpc, hcycles, hz⟩ := exists_advances_loaded hi hl ha
  rcases Nat.lt_or_eq_of_le hl with hlt | heq
  · have hex := execute_loaded hadv (Machine.stopsWith_halted (hz hlt))
    refine ⟨_, _, _, load_eq_loaded hp, hex, hcells, ?_, ?_⟩
    · intro _
      have hr : m.retire.cycles.toNat = is.length + 1 := by
        rw [Machine.retire, UInt32.toNat_add, hcycles, UInt32.toNat_one]
        omega
      exact ⟨rfl, hr, hpc⟩
    · intro heq
      omega
  · have hend : m.pc = 256 := UInt16.toNat_inj.1 (hpc.trans heq)
    have hex := execute_loaded hadv (Machine.stopsWith_outside hend)
    refine ⟨_, _, _, load_eq_loaded hp, hex, hcells, ?_, ?_⟩
    · intro hlt
      omega
    · intro _
      exact ⟨rfl, hcycles, hend⟩

/-- A sum that wraps around, is stored behind the program and subtracted from itself after the first
byte of the program was read; and as many increments as memory holds. -/
theorem execute_straightLine_sum :
    let sum : List Instruction :=
      [.loadImm 0 200, .loadImm 1 100, .add 0 1, .store 0 0xf0, .load 2 0x00, .sub 0 0]
    let count : List Instruction := List.replicate 128 (.inc 7)
    (∃ s execution s', load (encodeAll sum) = .ok s ∧ s.execute = some (execution, s') ∧
      (s'.machine.cells.register 0, s'.machine.cells.register 2, s'.machine.cells.byte 0xf0) =
        (0, 0x10, 44) ∧
      execution.fault? = none ∧ execution.retired.toNat = 7 ∧ s'.machine.pc.toNat = 18) ∧
    ∃ s execution s', load (encodeAll count) = .ok s ∧ s.execute = some (execution, s') ∧
      s'.machine.cells.register 7 = 128 ∧ execution.fault? = some (.truncated 256) ∧
      execution.retired.toNat = 128 ∧ s'.machine.pc = 256 := by
  intro sum count
  have hl : (encodeAll sum).length = 18 := rfl
  have hs : ∀ r a, .store r a ∈ sum → (encodeAll sum).length < a.toNat := by
    intro r a hm
    obtain ⟨-, rfl⟩ : r = 0 ∧ a = 0xf0 := by simpa [sum] using hm
    decide
  obtain ⟨s, execution, s', hload, hex, hcells, hshort, -⟩ :=
    execute_straightLine sum (by decide) (by decide) hs
  have hl' : (encodeAll count).length = 256 := by decide +kernel
  have hs' : ∀ r a, .store r a ∈ count → (encodeAll count).length < a.toNat := by
    intro r a hm
    simp [count] at hm
  obtain ⟨t, execution', t', hload', hex', hcells', -, hfull⟩ :=
    execute_straightLine count (by simp [count, isStraight]) (Nat.le_of_eq hl') hs'
  refine ⟨⟨s, execution, s', hload, hex, ?_, hshort (by decide)⟩,
    t, execution', t', hload', hex', ?_, hfull hl'⟩
  · rw [hcells]
    decide +kernel
  · rw [hcells']
    decide +kernel

end Session

end HexMonitor
