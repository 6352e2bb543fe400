import HexMonitor.Session
import HexMonitor.Proofs.Runs

namespace HexMonitor.Session

def executeEach : Nat → Session → Option (List Execution × Session)
  | 0, s => some ([], s)
  | n + 1, s => do
    let (execution, s') ← s.execute
    let (executions, s'') ← executeEach n s'
    return (execution :: executions, s'')

theorem execute_of_run {s : Session} {stop : Stop} {m : Machine}
    (h : s.machine.run = some (stop, m)) :
    s.execute = some (⟨m.cycles - s.machine.cycles, stop.fault?⟩, ⟨m, .executed⟩) := by
  rw [execute, h]
  rfl

theorem executeEach_succ {s s' s'' : Session} {execution : Execution}
    {executions : List Execution} {n : Nat} (h : s.execute = some (execution, s'))
    (hn : executeEach n s' = some (executions, s'')) :
    executeEach (n + 1) s = some (execution :: executions, s'') := by
  simp only [executeEach, h, hn, Option.bind_eq_bind, Option.bind_some]
  rfl

/-- An execution tells what the run adds to the cycle counter, also when the counter wraps around. -/
theorem execute_of_cycles {m m' : Machine} {stop : Stop} {n : Nat} (phase : Phase)
    (h : m.run = some (stop, { m' with cycles := m.cycles + .ofNat n })) :
    execute ⟨m, phase⟩ = some (⟨.ofNat n, stop.fault?⟩,
      ⟨{ m' with cycles := m.cycles + .ofNat n }, .executed⟩) := by
  have hc : m.cycles + .ofNat n - m.cycles = .ofNat n := by
    rw [UInt32.add_comm, UInt32.add_sub_cancel]
  rw [execute_of_run h, hc]

/-- An execution of a machine at rest. -/
theorem execute_atRest {m : Machine} {stop : Stop} (h : m.AtRest stop) (phase : Phase) :
    execute ⟨m, phase⟩ = some (⟨.ofNat stop.retired, stop.fault?⟩,
      ⟨{ m with cycles := m.cycles + .ofNat stop.retired }, .executed⟩) :=
  execute_of_cycles phase h.run_eq

/-- All executions of a machine at rest are the same, and they add up in the cycle counter. -/
theorem executeEach_atRest {m : Machine} {stop : Stop} (h : m.AtRest stop) (n : Nat) :
    executeEach n ⟨m, .executed⟩ =
      some (List.replicate n ⟨.ofNat stop.retired, stop.fault?⟩,
        ⟨{ m with cycles := m.cycles + .ofNat (n * stop.retired) }, .executed⟩) := by
  induction n generalizing m with
  | zero =>
    have hc : m.cycles + .ofNat (0 * stop.retired) = m.cycles := by
      rw [Nat.zero_mul]
      exact UInt32.add_zero _
    rw [hc]
    rfl
  | succ n ih =>
    have hc : m.cycles + .ofNat stop.retired + .ofNat (n * stop.retired) =
        m.cycles + .ofNat ((n + 1) * stop.retired) := by
      rw [UInt32.add_assoc, ← UInt32.ofNat_add, Nat.succ_mul, Nat.add_comm]
    have hr := ih (h.with_cycles (m.cycles + .ofNat stop.retired))
    rw [hc] at hr
    exact executeEach_succ (execute_atRest h .executed) hr

/-- Once an execution has ended, all further ones end: after a halt each completes one instruction
and counts it, after a fault each tells the same fault and leaves everything as it is. -/
theorem executeEach_of_run (s : Session) (stop : Stop) (m : Machine)
    (h : s.machine.run = some (stop, m)) :
    s.execute = some (⟨m.cycles - s.machine.cycles, stop.fault?⟩, ⟨m, .executed⟩) ∧
    (stop = .halted → ∀ n, executeEach n ⟨m, .executed⟩ =
      some (List.replicate n ⟨1, none⟩,
        ⟨{ m with cycles := .ofNat (m.cycles.toNat + n) }, .executed⟩)) ∧
    ∀ f, stop = .faulted f → ∀ n, executeEach n ⟨m, .executed⟩ =
      some (List.replicate n ⟨0, some f⟩, ⟨m, .executed⟩) := by
  have hr := Machine.atRest_of_run h
  refine ⟨execute_of_run h, ?_, ?_⟩
  · rintro rfl n
    have hc : m.cycles + .ofNat (n * Stop.halted.retired) = .ofNat (m.cycles.toNat + n) := by
      rw [UInt32.ofNat_add, UInt32.ofNat_toNat, Stop.retired, Nat.mul_one]
    rw [executeEach_atRest hr n, hc]
    rfl
  · rintro f rfl n
    have hc : m.cycles + .ofNat (n * (Stop.faulted f).retired) = m.cycles := by
      rw [Stop.retired, Nat.mul_zero]
      exact UInt32.add_zero _
    rw [executeEach_atRest hr n, hc]
    rfl

/-- A program that overwrites its second instruction by a halt stands before the last value of the
cycle counter; and a machine whose program counter is behind the end of memory. -/
theorem executeEach_twice :
    let m : Machine :=
      { Machine.zero with
        memory := Machine.imageOf [0x21, 0x00, 0x03, 0x05], cycles := 0xfffffffd }
    let m' : Machine := { Machine.zero with pc := 256, status := { halted := true } }
    ∃ s, execute ⟨m, .loaded⟩ = some (⟨2, none⟩, ⟨s, .executed⟩) ∧ s.cycles = 0xffffffff ∧
      executeEach 2 ⟨s, .executed⟩ =
        some ([⟨1, none⟩, ⟨1, none⟩], ⟨{ s with cycles := 1 }, .executed⟩) ∧
      ∃ s', execute ⟨m', .empty⟩ = some (⟨0, some (.truncated 256)⟩, ⟨s', .executed⟩) ∧
        executeEach 2 ⟨s', .executed⟩ =
          some ([⟨0, some (.truncated 256)⟩, ⟨0, some (.truncated 256)⟩], ⟨s', .executed⟩) := by
  intro m m'
  have hm : (m.run.any fun r => r.1 = .halted ∧ r.2.cycles = 0xffffffff) = true := by
    decide +kernel
  obtain ⟨⟨stop, s⟩, hr, he⟩ := (Option.any_eq_true _ _).1 hm
  obtain ⟨rfl, hc⟩ := of_decide_eq_true he
  have hm' : (m'.run.any fun r => r.1 = .faulted (.truncated 256) ∧ r.2.cycles = 0) = true := by
    decide +kernel
  obtain ⟨⟨stop', s'⟩, hr', he'⟩ := (Option.any_eq_true _ _).1 hm'
  obtain ⟨rfl, hc'⟩ := of_decide_eq_true he'
  obtain ⟨h₁, hh, -⟩ := executeEach_of_run ⟨m, .loaded⟩ .halted s hr
  obtain ⟨h₁', -, hf⟩ := executeEach_of_run ⟨m', .empty⟩ (.faulted (.truncated 256)) s' hr'
  have h₂ := hh rfl 2
  have hd : s.cycles - m.cycles = 2 := by rw [hc]; decide
  have hd' : s'.cycles - m'.cycles = 0 := by rw [hc']; decide
  have hn : UInt32.ofNat (s.cycles.toNat + 2) = 1 := by rw [hc]; decide
  rw [hd] at h₁
  rw [hd'] at h₁'
  rw [hn] at h₂
  exact ⟨s, h₁, hc, h₂, s', h₁', hf _ rfl 2⟩

end HexMonitor.Session
