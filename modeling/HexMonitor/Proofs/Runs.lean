import Mathlib.Tactic.ByContra
import HexMonitor.Proofs.Divergence
import HexMonitor.Proofs.Faults

namespace HexMonitor

/-- How many instructions complete where a run stops: a halt does, a faulting instruction does not. -/
def Stop.retired : Stop → Nat
  | halted => 1
  | faulted _ => 0

namespace Machine

/-- What one instruction preserves, any number of them does. -/
theorem Advances.preserves {P : Machine → Prop}
    (hP : ∀ m m', m.step = .next m' → P m → P m') {n : Nat} {m m' : Machine}
    (h : Advances n m m') (hm : P m) : P m' := by
  induction h with
  | refl m => exact hm
  | step hs _ ih => exact ih (hP _ _ hs hm)

theorem StopsWith.not_next {m m₁ m₂ : Machine} {stop : Stop} (h : StopsWith m stop m₂) :
    m.step ≠ .next m₁ := by
  cases h <;> simp [*]

theorem runFor_of_stopsWith {n : Nat} {m m₁ m₂ : Machine} {stop : Stop} (h : Advances n m m₁)
    (hs : StopsWith m₁ stop m₂) :
    runFor (n + 1) m = some (stop, { m₂ with status := stop.status }) := by
  induction h with
  | refl m => cases hs <;> simp [runFor, *]
  | step h _ ih => simpa only [runFor, h] using ih hs

theorem exists_stopsWith_of_runFor {n : Nat} {m m' : Machine} {stop : Stop}
    (h : runFor n m = some (stop, m')) :
    ∃ k m₁ m₂, Advances k m m₁ ∧ StopsWith m₁ stop m₂ ∧
      m' = { m₂ with status := stop.status } := by
  induction n generalizing m with
  | zero => cases h
  | succ n ih =>
    unfold runFor at h
    split at h
    · rename_i m₁ hs
      obtain ⟨k, m₂, m₃, ha, hst, rfl⟩ := ih h
      exact ⟨k + 1, m₂, m₃, .step hs ha, hst, rfl⟩
    · rename_i m₁ hs
      cases h
      exact ⟨0, m, m₁, .refl m, .halt hs, rfl⟩
    · rename_i f hs
      cases h
      exact ⟨0, m, m, .refl m, .fault hs, rfl⟩

theorem StopsWith.not_advances {n : Nat} {m m₁ m₂ m₃ : Machine} {stop : Stop}
    (hs : StopsWith m₁ stop m₂) (ha : Advances n m m₁) : ¬ Advances (n + 1) m m₃ := by
  intro h
  obtain ⟨m₁', ha', hr⟩ := h.split
  obtain rfl := ha.unique ha'
  cases hr with
  | step h _ => exact hs.not_next h

/-- A run that ends does so within as many instructions as there are configurations: one that goes
on for longer never ends. -/
theorem run_eq_some_iff (m m' : Machine) (stop : Stop) :
    m.run = some (stop, m') ↔ ∃ n m₁ m₂, Advances n { m with status := .clear } m₁ ∧
      StopsWith m₁ stop m₂ ∧ m' = { m₂ with status := stop.status } := by
  constructor
  · intro h
    exact exists_stopsWith_of_runFor h
  · rintro ⟨n, m₁, m₂, ha, hs, rfl⟩
    -- A longer run would go on past its own stop.
    have hn : n < configurationCount := by
      by_contra! hn
      obtain ⟨t, ht⟩ := ha.exists_of_le hn
      obtain ⟨m₃, h⟩ := advances_of_configurationCount ht (n + 1)
      exact hs.not_advances ha h
    exact runFor_mono hn (runFor_of_stopsWith ha hs)

theorem StopsWith.eq_with_cycles {m m' : Machine} {stop : Stop} (h : StopsWith m stop m') :
    m' = { m with cycles := m'.cycles } := by
  cases h with
  | halt h =>
    obtain ⟨-, rfl⟩ := (m.step_eq_halted_iff m').1 h
    rfl
  | fault h => rfl

/-- Status and cycle counter have no part in how the next instruction ends a run, which is counted
from wherever the counter stands. -/
theorem StopsWith.with {m m' : Machine} {stop : Stop} (h : StopsWith m stop m') (s : Status)
    (c : UInt32) :
    StopsWith { m with status := s, cycles := c } stop
      { m' with status := s, cycles := c + .ofNat stop.retired } := by
  have hw := m.step_with s c
  cases h with
  | halt h =>
    rw [h] at hw
    exact .halt hw
  | fault h =>
    rw [h] at hw
    have hc : c + .ofNat 0 = c := UInt32.add_zero c
    rw [Stop.retired, hc]
    exact .fault hw

/-- A machine at rest: the status tells how it stopped, and the instruction at the program counter
would stop it in the same way again. -/
structure AtRest (m : Machine) (stop : Stop) : Prop where
  status_eq : m.status = stop.status
  stops : ∃ m', StopsWith m stop m'

theorem AtRest.with_cycles {m : Machine} {stop : Stop} (h : m.AtRest stop) (c : UInt32) :
    ({ m with cycles := c } : Machine).AtRest stop := by
  obtain ⟨m', hs⟩ := h.stops
  exact ⟨h.status_eq, _, hs.with m.status c⟩

theorem atRest_of_run {m m' : Machine} {stop : Stop} (h : m.run = some (stop, m')) :
    m'.AtRest stop := by
  obtain ⟨n, m₁, m₂, -, hs, rfl⟩ := (m.run_eq_some_iff m' stop).1 h
  rw [hs.eq_with_cycles]
  exact ⟨rfl, _, hs.with stop.status m₂.cycles⟩

theorem pc_le_of_run {m m' : Machine} {stop : Stop} (h : m.run = some (stop, m'))
    (hp : m.pc.toNat ≤ memorySize) : m'.pc.toNat ≤ memorySize := by
  obtain ⟨n, m₁, m₂, ha, hs, rfl⟩ := (m.run_eq_some_iff m' stop).1 h
  rw [hs.eq_with_cycles]
  apply ha.preserves (P := fun m => m.pc.toNat ≤ memorySize)
  · intro m m' hn _
    exact pc_le_of_step_next hn
  · exact hp

/-- Running a machine at rest ends at once, in the same way, and touches nothing but the cycle
counter. -/
theorem AtRest.run_eq {m : Machine} {stop : Stop} (h : m.AtRest stop) :
    m.run = some (stop, { m with cycles := m.cycles + .ofNat stop.retired }) := by
  obtain ⟨m', hs⟩ := h.stops
  apply (m.run_eq_some_iff _ stop).2
  refine ⟨0, _, _, .refl _, hs.with .clear m.cycles, ?_⟩
  rw [hs.eq_with_cycles, ← h.status_eq]

theorem AtRest.zero_at_pc {m : Machine} (h : m.AtRest .halted) :
    m.memory[m.pc.toNat]? = some 0 := by
  obtain ⟨m', hs⟩ := h.stops
  cases hs with
  | halt hs => exact (opcode_of_fetch ((m.step_eq_halted_iff m').1 hs).1).1

theorem AtRest.faults {m : Machine} {f : Fault} (h : m.AtRest (.faulted f)) : m.Faults f := by
  obtain ⟨m', hs⟩ := h.stops
  cases hs with
  | fault hs => exact (m.step_eq_faulted_iff f).1 hs

end Machine

end HexMonitor
