import HexMonitor.Proofs.Reruns

namespace HexMonitor

namespace Machine

/-- `Completes m n`: started at the program counter of `m`, `n` instructions complete until one of
them halts or a further one faults. -/
inductive Completes : Machine → Nat → Prop
  | halt {m m' : Machine} (h : m.step = .halted m') : Completes m 1
  | fault {m : Machine} {f : Fault} (h : m.step = .faulted f) : Completes m 0
  | next {m m' : Machine} {n : Nat} (h : m.step = .next m') (rest : Completes m' n) :
      Completes m (n + 1)

theorem Completes.unique {m : Machine} {n n' : Nat} (h : m.Completes n) (h' : m.Completes n') :
    n = n' := by
  induction h generalizing n' with
  | halt h =>
    cases h' with
    | halt => rfl
    | fault h' => cases h.symm.trans h'
    | next h' => cases h.symm.trans h'
  | fault h =>
    cases h' with
    | halt h' => cases h.symm.trans h'
    | fault => rfl
    | next h' => cases h.symm.trans h'
  | next h _ ih =>
    cases h' with
    | halt h' => cases h.symm.trans h'
    | fault h' => cases h.symm.trans h'
    | next h' rest' =>
      cases h.symm.trans h'
      rw [ih rest']

theorem StopsWith.completes {m m' : Machine} {stop : Stop} (h : StopsWith m stop m') :
    m.Completes stop.retired := by
  cases h with
  | halt h => exact .halt h
  | fault h => exact .fault h

theorem Advances.completes {n k : Nat} {m m' : Machine} (h : Advances n m m')
    (h' : m'.Completes k) : m.Completes (n + k) := by
  induction h with
  | refl m => rwa [Nat.zero_add]
  | step hs _ ih =>
    rw [Nat.add_right_comm]
    exact .next hs (ih h')

/-- Status and cycle counter have no part in how instructions advance, which are counted from
wherever the counter stands. -/
theorem Advances.with {n : Nat} {m m' : Machine} (h : Advances n m m') (s : Status) (c : UInt32) :
    Advances n { m with status := s, cycles := c }
      { m' with status := s, cycles := c + .ofNat n } := by
  induction h generalizing c with
  | refl m =>
    have hc : c + .ofNat 0 = c := UInt32.add_zero c
    rw [hc]
    exact .refl _
  | @step n m m₁ m₂ hs _ ih =>
    have hc : c + .ofNat (n + 1) = c + 1 + .ofNat n := by
      rw [Nat.add_comm, UInt32.ofNat_add, UInt32.add_assoc]
      rfl
    have hw := m.step_with s c
    rw [hs] at hw
    rw [hc]
    exact .step hw (ih (c + 1))

/-- The counter tells how many instructions have completed since it was zero. -/
theorem Advances.cycles_eq {n : Nat} {m m' : Machine} (h : Advances n m m') :
    m'.cycles = m.cycles + .ofNat n := by
  have hw := h.with m.status m.cycles
  exact congrArg cycles (h.unique hw)

theorem completes_of_run {m m' : Machine} {stop : Stop} (h : m.run = some (stop, m')) :
    ∃ n, Completes { m with status := .clear } n ∧ ∀ s c,
      ({ m with status := s, cycles := c } : Machine).run =
        some (stop, { m' with cycles := c + .ofNat n }) := by
  obtain ⟨n, m₁, m₂, ha, hs, rfl⟩ := (m.run_eq_some_iff m' stop).1 h
  refine ⟨n + stop.retired, ha.completes hs.completes, ?_⟩
  intro s c
  have hc : c + .ofNat n + .ofNat stop.retired = c + .ofNat (n + stop.retired) := by
    rw [UInt32.add_assoc, ← UInt32.ofNat_add]
  have hw := hs.with .clear (c + .ofNat n)
  rw [hc] at hw
  exact (run_eq_some_iff _ _ stop).2 ⟨n, _, _, ha.with .clear c, hw, rfl⟩

/-- A run adds to the cycle counter how many instructions complete in it, modulo the counter's range,
and so much an execution tells to have completed; in all else it is the same for any counter and
status to begin with. -/
theorem completes_of_run_with (m m' : Machine) (stop : Stop)
    (h : m.run = some (stop, m')) :
    ∃ n, Completes { m with status := .clear } n ∧
      (∀ n', Completes { m with status := .clear } n' → n' = n) ∧
      ∀ (s : Status) (c : UInt32), ∃ c' : UInt32, c'.toNat = (c.toNat + n) % 2 ^ 32 ∧
        ({ m with status := s, cycles := c } : Machine).run =
          some (stop, { m' with cycles := c' }) ∧
        ∀ phase, ∃ retired : UInt32, retired.toNat = n % 2 ^ 32 ∧
          Session.execute ⟨{ m with status := s, cycles := c }, phase⟩ =
            some (⟨retired, stop.fault?⟩, ⟨{ m' with cycles := c' }, .executed⟩) := by
  obtain ⟨n, hn, hr⟩ := completes_of_run h
  refine ⟨n, hn, ?_, ?_⟩
  · intro n' hn'
    exact hn'.unique hn
  · intro s c
    have hc : (c + .ofNat n).toNat = (c.toNat + n) % 2 ^ 32 := by
      rw [UInt32.toNat_add, UInt32.toNat_ofNat', Nat.add_mod_mod]
    refine ⟨_, hc, hr s c, ?_⟩
    intro phase
    exact ⟨_, UInt32.toNat_ofNat', Session.execute_of_cycles phase (hr s c)⟩

/-- The counter wraps around behind the second of three instructions. -/
theorem completes_of_run_with_wrap :
    let m : Machine := { zero with memory := imageOf [0x32, 0x00, 0x01] }
    let m₁ : Machine := { m with status := ⟨true, true⟩, cycles := 0xfffffffe }
    ∃ m', m.run = some (.halted, m') ∧ m₁.run = some (.halted, { m' with cycles := 1 }) ∧
      Session.execute ⟨m₁, .loaded⟩ =
        some (⟨3, none⟩, ⟨{ m' with cycles := 1 }, .executed⟩) := by
  intro m m₁
  have hm : (m.run.any fun r => r.1 = .halted) = true := by decide +kernel
  obtain ⟨⟨stop, m'⟩, hr, he⟩ := (Option.any_eq_true _ _).1 hm
  obtain rfl := of_decide_eq_true he
  obtain ⟨n, -, -, h⟩ := completes_of_run_with m m' .halted hr
  obtain ⟨c, hc, hr₁, hx⟩ := h ⟨true, true⟩ 0xfffffffe
  obtain ⟨retired, hd, hx⟩ := hx .loaded
  obtain rfl : c = 1 := by
    have h₁ : (m₁.run.all fun r => r.2.cycles = 1) = true := by decide +kernel
    rw [hr₁] at h₁
    exact of_decide_eq_true h₁
  obtain rfl : retired = 3 := by
    have hn : (1 : UInt32).toNat = ((0xfffffffe : UInt32).toNat + n) % 2 ^ 32 := hc
    simp only [UInt32.reduceToNat] at hn
    apply UInt32.toNat_inj.1
    simp only [UInt32.reduceToNat]
    omega
  exact ⟨m', hr, hr₁, hx⟩

end Machine

end HexMonitor
