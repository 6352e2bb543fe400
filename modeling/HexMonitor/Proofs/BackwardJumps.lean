import HexMonitor.Proofs.CycleCounts
import HexMonitor.Proofs.Stores

namespace HexMonitor

namespace Machine

/-- `JumpsBack m`: the instruction at the program counter of `m` is a jump that is taken, and it leads
to its own address or to an earlier one. -/
inductive JumpsBack (m : Machine) : Prop
  | jump {target : UInt8} (hf : m.fetch = .ok (.jump target)) (hb : target.toNat ≤ m.pc.toNat)
  | jumpZero {r : Register} {target : UInt8} (hf : m.fetch = .ok (.jumpZero r target))
      (hc : m.register r = 0) (hb : target.toNat ≤ m.pc.toNat)
  | jumpNotZero {r : Register} {target : UInt8} (hf : m.fetch = .ok (.jumpNotZero r target))
      (hc : m.register r ≠ 0) (hb : target.toNat ≤ m.pc.toNat)

theorem jumpsBack_of_takenTarget? {m : Machine} {i : Instruction} {target : UInt8}
    (hf : m.fetch = .ok i) (ht : i.takenTarget? m = some target)
    (hb : target.toNat ≤ m.pc.toNat) : m.JumpsBack := by
  cases i with
  | jump t =>
    cases ht
    exact .jump hf hb
  | jumpZero r t =>
    obtain ⟨hc, ht⟩ := Option.ite_none_right_eq_some.1 ht
    cases ht
    exact .jumpZero hf hc hb
  | jumpNotZero r t =>
    obtain ⟨hc, ht⟩ := Option.ite_none_left_eq_some.1 ht
    cases ht
    exact .jumpNotZero hf hc hb
  | _ => cases ht

/-- An instruction that completes is a jump backwards, or it moves the program counter on. -/
theorem jumpsBack_or_pc_lt {m m' : Machine} (h : m.step = .next m') :
    m.JumpsBack ∨ m.pc.toNat < m'.pc.toNat := by
  obtain ⟨i, hf, -, rfl⟩ := (m.step_eq_next_iff m').1 h
  cases ht : i.takenTarget? m with
  | some target =>
    rcases Nat.lt_or_ge m.pc.toNat target.toNat with hlt | hb
    · right
      simpa only [Instruction.successor, ht, UInt8.toNat_toUInt16] using hlt
    · exact .inl (jumpsBack_of_takenTarget? hf ht hb)
  | none =>
    -- The sum does not wrap around: the instruction ends in memory.
    obtain ⟨-, hs⟩ := opcode_of_fetch hf
    have hi : 0 < i.size := i.opcode.size_pos
    unfold memorySize at hs
    right
    simp only [Instruction.successor, ht, UInt16.toNat_add, UInt16.toNat_ofNat']
    omega

theorem Advances.jumpsBack_or_pc_add_le {n : Nat} {m m' : Machine} (h : Advances n m m') :
    (∃ k m₁, k < n ∧ Advances k m m₁ ∧ m₁.JumpsBack) ∨ m.pc.toNat + n ≤ m'.pc.toNat := by
  induction h with
  | refl m => exact .inr (Nat.le_refl _)
  | @step n m m₁ m₂ hs _ ih =>
    rcases jumpsBack_or_pc_lt hs with hb | hlt
    · exact .inl ⟨0, m, Nat.succ_pos n, .refl m, hb⟩
    rcases ih with ⟨k, m', hk, ha, hb⟩ | hle
    · exact .inl ⟨k + 1, m', Nat.succ_lt_succ hk, .step hs ha, hb⟩
    · right
      omega

theorem Advances.pc_le {n : Nat} {m m' : Machine} (h : Advances (n + 1) m m') :
    m'.pc.toNat ≤ memorySize := by
  cases h with
  | step hs rest =>
    apply rest.preserves (P := fun m => m.pc.toNat ≤ memorySize)
    · intro m m' hn _
      exact pc_le_of_step_next hn
    · exact pc_le_of_step_next hs

/-- The program counter can move on 256 times only. -/
theorem Advances.exists_jumpsBack {m m' : Machine} (h : Advances 257 m m') :
    ∃ k m₁, k < 257 ∧ Advances k m m₁ ∧ m₁.JumpsBack := by
  rcases h.jumpsBack_or_pc_add_le with hb | hle
  · exact hb
  · have hp := h.pc_le
    unfold memorySize at hp
    omega

/-- `FallsThrough m`: no byte of memory is the opcode of a jump or of a store. -/
def FallsThrough (m : Machine) : Prop := ∀ byte ∈ [0x02, 0x03, 0x04, 0x21], byte ∉ m.memory

theorem FallsThrough.not_jumpsBack {m : Machine} (h : m.FallsThrough) : ¬ m.JumpsBack := by
  have hm {i : Instruction} (hf : m.fetch = .ok i) : i.opcode.toByte ∈ m.memory :=
    Vector.mem_of_getElem? (opcode_of_fetch hf).1
  intro hb
  cases hb with
  | jump hf => exact h 0x02 (by decide) (hm hf)
  | jumpZero hf => exact h 0x03 (by decide) (hm hf)
  | jumpNotZero hf => exact h 0x04 (by decide) (hm hf)

/-- Without stores it stays so, whatever is executed. -/
theorem FallsThrough.of_next {m m' : Machine} (h : m.FallsThrough) (hs : m.step = .next m') :
    m'.FallsThrough := by
  have hm : m'.memory = m.memory := (overwrites_of_next hs).memory_eq (h 0x21 (by decide))
  unfold FallsThrough
  rwa [hm]

theorem FallsThrough.run_ne_none {m : Machine} (h : m.FallsThrough) : m.run ≠ none := by
  intro hr
  obtain ⟨m', ha⟩ := run_eq_none_iff.1 hr 257
  obtain ⟨k, m₁, -, ha₁, hb⟩ := ha.exists_jumpsBack
  have h₁ : m₁.FallsThrough := ha₁.preserves (fun _ _ hs hm => hm.of_next hs) h
  exact h₁.not_jumpsBack hb

/-- Each instruction that completes takes one of the addresses that are left. -/
theorem FallsThrough.pc_add_le {m : Machine} {n : Nat} (h : m.FallsThrough) (hn : m.Completes n)
    (hp : m.pc.toNat ≤ memorySize) : m.pc.toNat + n ≤ memorySize := by
  induction hn with
  | @halt m m' hs =>
    obtain ⟨hf, -⟩ := (m.step_eq_halted_iff m').1 hs
    exact (opcode_of_fetch hf).2
  | fault => exact hp
  | next hs _ ih =>
    have hle := ih (h.of_next hs) (pc_le_of_step_next hs)
    rcases jumpsBack_or_pc_lt hs with hb | hlt
    · exact absurd hb h.not_jumpsBack
    · omega

end Machine

namespace Session

theorem fallsThrough_loaded {program : Bytes}
    (h : ∀ byte ∈ [0x02, 0x03, 0x04, 0x21], byte ∉ program) :
    (loaded program).machine.FallsThrough := by
  intro byte hb
  have hz : byte ≠ 0 := by
    rintro rfl
    exact absurd hb (by decide)
  exact Machine.not_mem_imageOf hz (h byte hb)

/-- Of any 257 instructions that complete in a row one is a taken jump to its own address or to an
earlier one, also where the program changes itself. So a program without the opcodes of jumps and
stores ends when it is executed, and completes 256 instructions at most. -/
theorem kept_going_by_backward_jumps :
    (∀ (m m' : Machine) (n start : Nat), Machine.Advances n m m' → start + 257 ≤ n →
      ∃ k m₁, start ≤ k ∧ k < start + 257 ∧ Machine.Advances k m m₁ ∧ m₁.JumpsBack) ∧
    ∀ program : Bytes, program.length ≤ 256 →
      (∀ byte ∈ [0x02, 0x03, 0x04, 0x21], byte ∉ program) →
      ∃ s execution s' n, load program = .ok s ∧ s.execute = some (execution, s') ∧
        s.machine.Completes n ∧ execution.retired.toNat = n ∧ n ≤ 256 := by
  constructor
  · intro m m' n start h hn
    obtain ⟨m₁, h₁⟩ := h.exists_of_le hn
    obtain ⟨m₀, h₀, hw⟩ := h₁.split
    obtain ⟨k, m₂, hk, h₂, hb⟩ := hw.exists_jumpsBack
    exact ⟨start + k, m₂, Nat.le_add_right start k, Nat.add_lt_add_left hk start, h₀.trans h₂, hb⟩
  · intro program hl hb
    have hf := fallsThrough_loaded hb
    obtain ⟨⟨stop, m'⟩, hr⟩ := Option.ne_none_iff_exists'.1 hf.run_ne_none
    obtain ⟨n, hn, hw⟩ := Machine.completes_of_run hr
    have hle : 0 + n ≤ 256 := hf.pc_add_le hn (Nat.zero_le _)
    have hx := execute_of_cycles .loaded (hw .clear 0)
    have hc : (UInt32.ofNat n).toNat = n := by
      rw [UInt32.toNat_ofNat']
      omega
    exact ⟨loaded program, _, _, n, load_eq_loaded (if_pos hl), hx, hn, hc, by omega⟩

/-- A jump forwards that the program turns into one to its start, and as many instructions as memory
holds. -/
theorem kept_going_by_backward_jumps_overwritten :
    let m : Machine :=
      { Machine.zero with
        memory := Machine.imageOf [0x10, 0x00, 0x00, 0x21, 0x00, 0x07, 0x02, 0x08, 0x00] }
    (∃ m', Machine.Advances 300 m m' ∧
      ∃ k m₁, 40 ≤ k ∧ k < 40 + 257 ∧ Machine.Advances k m m₁ ∧ m₁.JumpsBack) ∧
    ∃ s execution s' n, load (List.replicate 256 0x01) = .ok s ∧
      s.execute = some (execution, s') ∧ s.machine.Completes n ∧ execution.retired.toNat = n ∧
      n ≤ 256 := by
  intro m
  constructor
  · have hn : Machine.runFor 300 m = none := by decide +kernel
    obtain ⟨m', h⟩ := Machine.runFor_eq_none_iff.1 hn
    exact ⟨m', h, kept_going_by_backward_jumps.1 m m' 300 40 h (by decide)⟩
  · have hl : (List.replicate 256 (0x01 : UInt8)).length ≤ 256 := Nat.le_of_eq List.length_replicate
    have hb : ∀ byte ∈ [0x02, 0x03, 0x04, 0x21], byte ∉ List.replicate 256 (0x01 : UInt8) := by
      intro byte hb h
      rw [List.eq_of_mem_replicate h] at hb
      exact absurd hb (by decide)
    exact kept_going_by_backward_jumps.2 _ hl hb

end Session

end HexMonitor
