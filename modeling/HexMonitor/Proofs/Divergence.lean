import Mathlib.Data.Fintype.BigOperators
import Mathlib.Data.Fintype.Pigeonhole
import HexMonitor.Machine.Run

namespace HexMonitor.Machine

/-- Memory, registers and program counter: all that decides what a machine does next. -/
def configuration (m : Machine) : (Fin 256 → Fin 256) × (Fin 8 → Fin 256) × Fin 65536 :=
  (fun i => m.memory[i].toFin, fun i => m.registers[i].toFin, m.pc.toFin)

theorem eq_with_of_configuration_eq {m m' : Machine} (h : m.configuration = m'.configuration) :
    m' = { m with status := m'.status, cycles := m'.cycles } := by
  obtain ⟨memory, registers, pc, status, cycles⟩ := m
  obtain ⟨memory', registers', pc', status', cycles'⟩ := m'
  simp only [configuration, Prod.mk.injEq, funext_iff, UInt8.toFin_inj, UInt16.toFin_inj] at h
  obtain ⟨hm, hr, rfl⟩ := h
  have hm' : memory = memory' := Vector.ext fun i hi => hm ⟨i, hi⟩
  have hr' : registers = registers' := Vector.ext fun i hi => hr ⟨i, hi⟩
  rw [hm', hr']

/-- Status and cycle counter are carried along by a step and do not influence it. -/
theorem step_with (m : Machine) (s : Status) (c : UInt32) :
    ({ m with status := s, cycles := c } : Machine).step =
      match m.step with
      | .next m₁ => .next { m₁ with status := s, cycles := c + 1 }
      | .halted m₁ => .halted { m₁ with status := s, cycles := c + 1 }
      | .faulted f => .faulted f := by
  have hf : ({ m with status := s, cycles := c } : Machine).fetchPadded 0 = m.fetchPadded 0 := rfl
  unfold step stepPadded
  rw [hf]
  cases m.fetchPadded 0 with
  | error f => rfl
  | ok i => cases i <;> rfl

theorem Advances.trans {n k : Nat} {m m₁ m₂ : Machine} (h : Advances n m m₁)
    (h' : Advances k m₁ m₂) : Advances (n + k) m m₂ := by
  induction h with
  | refl m => simpa using h'
  | step hs _ ih =>
    rw [Nat.add_right_comm]
    exact .step hs (ih h')

theorem Advances.split {n k : Nat} {m m₂ : Machine} (h : Advances (n + k) m m₂) :
    ∃ m₁, Advances n m m₁ ∧ Advances k m₁ m₂ := by
  induction n generalizing m with
  | zero => exact ⟨m, .refl m, by simpa using h⟩
  | succ n ih =>
    rw [Nat.add_right_comm] at h
    cases h with
    | step hs rest =>
      obtain ⟨m₁, h₁, h₂⟩ := ih rest
      exact ⟨m₁, .step hs h₁, h₂⟩

theorem Advances.exists_of_le {n k : Nat} {m m₂ : Machine} (h : Advances n m m₂) (hk : k ≤ n) :
    ∃ m₁, Advances k m m₁ := by
  obtain ⟨j, rfl⟩ := Nat.exists_eq_add_of_le hk
  obtain ⟨m₁, h₁, -⟩ := h.split
  exact ⟨m₁, h₁⟩

theorem Advances.unique {n : Nat} {m m₁ m₂ : Machine} (h : Advances n m m₁)
    (h' : Advances n m m₂) : m₁ = m₂ := by
  induction h with
  | refl m => cases h'; rfl
  | step hs _ ih =>
    cases h' with
    | step hs' rest' =>
      rw [hs] at hs'
      cases hs'
      exact ih rest'

/-- Machines of one configuration advance equally far. -/
theorem Advances.of_configuration_eq {n : Nat} {m m' m₁ : Machine} (h : Advances n m m₁)
    (hc : m.configuration = m'.configuration) : ∃ m₁', Advances n m' m₁' := by
  rw [eq_with_of_configuration_eq hc]
  generalize m'.status = s, m'.cycles = c
  clear hc
  induction h generalizing c with
  | refl m => exact ⟨_, .refl _⟩
  | step hs _ ih =>
    obtain ⟨m₁', h'⟩ := ih (c + 1)
    exact ⟨m₁', .step (by rw [step_with, hs]) h'⟩

theorem runFor_eq_none_iff {n : Nat} {m : Machine} :
    runFor n m = none ↔ ∃ m', Advances n m m' := by
  induction n generalizing m with
  | zero => exact ⟨fun _ => ⟨m, .refl m⟩, fun _ => rfl⟩
  | succ n ih =>
    constructor
    · intro h
      unfold runFor at h
      split at h
      · rename_i m₁ hs
        obtain ⟨m', h'⟩ := ih.1 h
        exact ⟨m', .step hs h'⟩
      · cases h
      · cases h
    · rintro ⟨m', h⟩
      cases h with
      | step hs rest => simpa only [runFor, hs] using ih.2 ⟨_, rest⟩

theorem card_configuration :
    Fintype.card ((Fin 256 → Fin 256) × (Fin 8 → Fin 256) × Fin 65536) = configurationCount := by
  rw [Fintype.card_prod, Fintype.card_prod, Fintype.card_fun, Fintype.card_fun, Fintype.card_fin,
    Fintype.card_fin, Fintype.card_fin]
  decide +kernel

/-- Who advances as many steps as there are configurations meets one of them twice. -/
theorem exists_configuration_eq {m m₁ : Machine} (h : Advances configurationCount m m₁) :
    ∃ i j s s', i < j ∧ Advances i m s ∧ Advances j m s' ∧
      s.configuration = s'.configuration := by
  have hs : ∀ i : Fin (configurationCount + 1), ∃ s, Advances i m s := by
    intro i
    apply h.exists_of_le
    omega
  choose state hstate using hs
  obtain ⟨i, j, hne, he⟩ := Fintype.exists_ne_map_eq_of_card_lt (fun i => (state i).configuration)
    (by rw [card_configuration, Fintype.card_fin]; omega)
  rcases lt_or_gt_of_ne hne with hij | hij
  · exact ⟨i, j, state i, state j, hij, hstate i, hstate j, he⟩
  · exact ⟨j, i, state j, state i, hij, hstate j, hstate i, he.symm⟩

/-- Who advances as many steps as there are configurations advances for ever. -/
theorem advances_of_configurationCount {m m₁ : Machine} (h : Advances configurationCount m m₁)
    (n : Nat) : ∃ m', Advances n m m' := by
  obtain ⟨i, j, s, s', hij, hi, hj, hc⟩ := exists_configuration_eq h
  induction n using Nat.strong_induction_on with
  | _ n ih =>
    rcases Nat.lt_or_ge j n with hn | hn
    · -- Without the loop from `i` to `j` the way is shorter.
      obtain ⟨m', h'⟩ := ih (i + (n - j)) (by omega)
      obtain ⟨t, ht, hr⟩ := h'.split
      rw [ht.unique hi] at hr
      obtain ⟨m'', h''⟩ := hr.of_configuration_eq hc
      have hjn : j + (n - j) = n := by omega
      exact ⟨m'', hjn ▸ hj.trans h''⟩
    · exact hj.exists_of_le hn

/-- Running gives no answer exactly if every number of instructions completes without a stop. -/
theorem run_eq_none_iff {m : Machine} :
    m.run = none ↔ ∀ n, ∃ m', Advances n { m with status := .clear } m' := by
  unfold run
  rw [runFor_eq_none_iff]
  constructor
  · rintro ⟨m', h⟩
    exact advances_of_configurationCount h
  · intro h
    exact h configurationCount

end HexMonitor.Machine
