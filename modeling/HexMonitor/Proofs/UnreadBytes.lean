import HexMonitor.Proofs.Code
import HexMonitor.Proofs.Runs

namespace HexMonitor

namespace Machine

/-- `Reads m i`: the instruction at the program counter of `m` reads the byte at the address `i`, as
a part of itself or as what it loads. -/
inductive Reads (m : Machine) (i : Nat) : Prop
  | code (h : m.Fetches i)
  | data {d : Register} {a : UInt8} (h : m.fetch = .ok (.load d a)) (ha : a.toNat = i)

/-- A store to the address `a` is at the program counter, and is carried out there. -/
def StoresTo (m : Machine) (a : UInt8) : Prop := ∃ s, m.fetch = .ok (.store s a)

/-- `Visits m x`: in the run from `m` an instruction is carried out in the state `x`, or ends the run
there. -/
def Visits (m x : Machine) : Prop := ∃ n, Advances n { m with status := .clear } x

theorem not_reads_of_fetch {m : Machine} {i : Instruction} {a : Nat} (hf : m.fetch = .ok i)
    (hb : a < m.pc.toNat ∨ m.pc.toNat + i.size ≤ a)
    (hl : ∀ d b, i = .load d b → b.toNat ≠ a) : ¬ m.Reads a := by
  rintro (h | ⟨h, ha⟩)
  · have hb' := h.bounds hf
    omega
  · cases hf.symm.trans h
    exact hl _ _ rfl ha

/-- An instruction takes effect alike in two states that differ in one byte, unless it loads that
byte. It leaves them equal if it stores to the byte, and otherwise as different as they were. -/
theorem effect_setByte {i : Instruction} (m : Machine) {a : UInt8} (v : UInt8)
    (hl : ∀ d, i ≠ .load d a) :
    ∃ w, i.effect (m.setByte a v) = (i.effect m).setByte a w ∧
      ((∃ s, i = .store s a) → w = (i.effect m).byteAt a) ∧
      ((∀ s, i ≠ .store s a) → w = v) := by
  cases i with
  | load d b =>
    have hb : b ≠ a := by
      rintro rfl
      exact hl d rfl
    refine ⟨v, ?_, by simp, fun _ => rfl⟩
    rw [Instruction.effect, Instruction.effect, byteAt_setByte_ne m hb]
    rfl
  | store s b =>
    by_cases hb : b = a
    · subst hb
      refine ⟨m.register s, ?_, ?_, fun h => absurd rfl (h s)⟩
      · simp only [Instruction.effect, setByte_setByte, register_setByte]
      · intro _
        rw [Instruction.effect, byteAt_setByte_self]
    · refine ⟨v, ?_, by simp [hb], fun _ => rfl⟩
      rw [Instruction.effect, Instruction.effect, setByte_comm m (Ne.symm hb), register_setByte]
  | _ => exact ⟨v, rfl, by simp, fun _ => rfl⟩

section

variable {m m' : Machine} {a : UInt8}

theorem fetch_setByte (v : UInt8) (hr : ¬ m.Reads a.toNat) : (m.setByte a v).fetch = m.fetch := by
  have hm (i : Nat) (hi : m.Fetches i) : (m.setByte a v).memory[i]? = m.memory[i]? := by
    apply getElem?_setByte
    rintro rfl
    exact hr (.code hi)
  exact fetchPadded_congr 0 0 rfl hm

theorem step_setByte (v : UInt8) (hr : ¬ m.Reads a.toNat) (h : m.step = .next m') :
    ∃ w, (m.setByte a v).step = .next (m'.setByte a w) ∧
      (m.StoresTo a → w = m'.byteAt a) ∧ (¬ m.StoresTo a → w = v) := by
  obtain ⟨i, hf, hi, rfl⟩ := (m.step_eq_next_iff m').1 h
  have hl : ∀ d, i ≠ .load d a := by
    rintro d rfl
    exact hr (.data hf rfl)
  obtain ⟨w, hw, hs, hn⟩ := effect_setByte m v hl
  refine ⟨w, ?_, ?_, ?_⟩
  · apply ((m.setByte a v).step_eq_next_iff _).2
    refine ⟨i, (fetch_setByte v hr).trans hf, hi, ?_⟩
    rw [hw]
    cases i <;> rfl
  · rintro ⟨s, hs'⟩
    cases hf.symm.trans hs'
    exact hs ⟨s, rfl⟩
  · intro hn'
    apply hn
    rintro s rfl
    exact hn' ⟨s, hf⟩

theorem StopsWith.setByte {stop : Stop} (h : StopsWith m stop m') (v : UInt8)
    (hr : ¬ m.Reads a.toNat) : StopsWith (m.setByte a v) stop (m'.setByte a v) := by
  have hf := fetch_setByte v hr
  cases h with
  | halt h =>
    obtain ⟨hh, rfl⟩ := (m.step_eq_halted_iff m').1 h
    exact .halt (((m.setByte a v).step_eq_halted_iff _).2 ⟨hf.trans hh, rfl⟩)
  | @fault f h =>
    have he := (m.fetch_eq_error_iff f).2 ((m.step_eq_faulted_iff f).1 h)
    have he' := ((m.setByte a v).fetch_eq_error_iff f).1 (hf.trans he)
    exact .fault (((m.setByte a v).step_eq_faulted_iff f).2 he')

theorem StopsWith.not_storesTo {stop : Stop} (h : StopsWith m stop m') : ¬ m.StoresTo a := by
  rintro ⟨s, hs⟩
  exact h.not_next ((m.step_eq_next_iff _).2 ⟨_, hs, by simp, rfl⟩)

/-- The byte differs until the first store to it. -/
theorem Advances.setByte {n : Nat} (h : Advances n m m') (v : UInt8)
    (hr : ∀ k x, Advances k m x → ¬ x.Reads a.toNat) :
    ∃ w, Advances n (m.setByte a v) (m'.setByte a w) ∧
      ((∃ k x, k < n ∧ Advances k m x ∧ x.StoresTo a) → w = m'.byteAt a) ∧
      ((∀ k x, Advances k m x → ¬ x.StoresTo a) → w = v) := by
  induction h generalizing v with
  | refl m => exact ⟨v, .refl _, by simp, fun _ => rfl⟩
  | @step n m m₁ m' hs rest ih =>
    obtain ⟨w, hw, hst, hn⟩ := step_setByte v (hr 0 m (.refl m)) hs
    by_cases hsm : m.StoresTo a
    · -- Behind the store the two states are one.
      have he : m₁.setByte a w = m₁ := by rw [hst hsm, setByte_byteAt]
      rw [he] at hw
      refine ⟨m'.byteAt a, ?_, fun _ => rfl, fun h => absurd hsm (h 0 m (.refl m))⟩
      rw [setByte_byteAt]
      exact .step hw rest
    · obtain ⟨w', hw', hst', hn'⟩ := ih w fun k x hx => hr (k + 1) x (.step hs hx)
      refine ⟨w', .step hw hw', ?_, ?_⟩
      · rintro ⟨k, x, hk, hx, hsx⟩
        cases hx with
        | refl => exact absurd hsx hsm
        | @step k _ _ _ hs' hx =>
          cases hs.symm.trans hs'
          exact hst' ⟨k, x, Nat.lt_of_succ_lt_succ hk, hx, hsx⟩
      · intro h
        rw [hn' fun k x hx => h (k + 1) x (.step hs hx), hn hsm]

end

/-- A byte that no instruction of a run reads has no influence on how it ends, on registers, program
counter, status and counter, nor on the other bytes of memory. At the end it holds what it would have
held, if the run stores to it, and otherwise what it was set to. -/
theorem run_setByte_of_not_reads (m m' : Machine) (stop : Stop) (a v : UInt8)
    (h : m.run = some (stop, m')) (hr : ∀ x, m.Visits x → ¬ x.Reads a.toNat) :
    ∃ m'', (m.setByte a v).run = some (stop, m'') ∧ m''.registers = m'.registers ∧
      m''.pc = m'.pc ∧ m''.status = m'.status ∧ m''.cycles = m'.cycles ∧
      (∀ b, b ≠ a → m''.byteAt b = m'.byteAt b) ∧
      ((∃ x, m.Visits x ∧ x.StoresTo a) → m''.byteAt a = m'.byteAt a) ∧
      ((∀ x, m.Visits x → ¬ x.StoresTo a) → m''.byteAt a = v) := by
  obtain ⟨n, m₁, m₂, ha, hs, rfl⟩ := (m.run_eq_some_iff m' stop).1 h
  obtain ⟨w, hw, hst, hn⟩ := ha.setByte v fun k x hx => hr x ⟨k, hx⟩
  have hs' := hs.setByte w (hr m₁ ⟨n, ha⟩)
  have hm₂ : m₂.byteAt a = m₁.byteAt a := by
    rw [hs.eq_with_cycles]
    rfl
  refine ⟨{ m₂.setByte a w with status := stop.status },
    ((m.setByte a v).run_eq_some_iff _ stop).2 ⟨n, _, _, hw, hs', rfl⟩, rfl, rfl, rfl, rfl, ?_, ?_, ?_⟩
  · intro b hb
    exact m₂.byteAt_setByte_ne hb w
  · rintro ⟨x, ⟨k, hx⟩, hsx⟩
    -- The store is carried out before the run stops.
    have hk : k < n := by
      rcases Nat.lt_trichotomy k n with hk | rfl | hk
      · exact hk
      · obtain rfl := ha.unique hx
        exact absurd hsx hs.not_storesTo
      · obtain ⟨x', hx'⟩ := hx.exists_of_le hk
        exact absurd hx' (hs.not_advances ha)
    have he : (m₂.setByte a w).byteAt a = w := byteAt_setByte_self m₂ a w
    exact he.trans ((hst ⟨k, x, hk, hx, hsx⟩).trans hm₂.symm)
  · intro hno
    have he : (m₂.setByte a w).byteAt a = w := byteAt_setByte_self m₂ a w
    exact he.trans (hn fun k x hx => hno x ⟨k, hx⟩)

/-- A byte is stored to behind a halt, whose operand bytes it would be if a halt had any. -/
theorem run_setByte_of_not_reads_stored :
    let m : Machine :=
      { zero with
        memory := imageOf [0x21, 0x01, 0x05, 0x00, 0x99, 0x99]
        registers := #v[0, 0x42, 0, 0, 0, 0, 0, 0] }
    (∀ x, m.Visits x → ¬ x.Reads 5) ∧
    ∃ m' m'', m.run = some (.halted, m') ∧ (m.setByte 5 0x77).run = some (.halted, m'') ∧
      m''.registers = m'.registers ∧ m''.pc = m'.pc ∧ m''.status = m'.status ∧
      m''.cycles = m'.cycles ∧ m''.byteAt 5 = m'.byteAt 5 := by
  intro m
  have hf : m.fetch = .ok (.store 1 5) := by decide +kernel
  obtain ⟨m₁, hs, hf₁, hp₁⟩ : ∃ m₁, m.step = .next m₁ ∧ m₁.fetch = .ok .halt ∧ m₁.pc = 3 :=
    ⟨_, (m.step_eq_next_iff _).2 ⟨.store 1 5, hf, by decide, rfl⟩, by decide +kernel,
      by decide +kernel⟩
  have hr : ∀ x, m.Visits x → ¬ x.Reads 5 := by
    rintro x ⟨n, hx⟩
    cases hx with
    | refl => exact not_reads_of_fetch hf (.inr (by decide)) (by simp)
    | step h rest =>
      cases hs.symm.trans h
      cases rest with
      | refl => exact not_reads_of_fetch hf₁ (.inr (by rw [hp₁]; decide)) (by simp)
      | step h _ => cases ((m₁.step_eq_halted_iff _).2 ⟨hf₁, rfl⟩).symm.trans h
  have hm : (m.run.any fun r => r.1 = .halted) = true := by decide +kernel
  obtain ⟨⟨stop, m'⟩, hrun, he⟩ := (Option.any_eq_true _ _).1 hm
  obtain rfl := of_decide_eq_true he
  obtain ⟨m'', hrun', hg, hp, hst, hc, -, hb, -⟩ :=
    run_setByte_of_not_reads m m' .halted 5 0x77 hrun hr
  exact ⟨hr, m', m'', hrun, hrun', hg, hp, hst, hc, hb ⟨m, ⟨0, .refl _⟩, 1, hf⟩⟩

end Machine

end HexMonitor
