import Mathlib.Logic.Function.Iterate
import HexMonitor.Proofs.StraightLine

namespace HexMonitor

namespace Instruction

def destination? : Instruction → Option Register
  | halt | nop | jump _ | jumpZero .. | jumpNotZero .. | store .. => none
  | loadImm d _ | move d _ | load d _ | add d _ | sub d _ | inc d | dec d | and d _ | or d _
  | xor d _ => some d

/-- What one turn of a loop computes: its body, then the decrement of the counting register. -/
def turnMeaning (r : Register) (body : List Instruction) (c : Cells) : Cells :=
  (dec r).meaning (body.foldl (fun c i => i.meaning c) c)

def loop (r : Register) (start : UInt8) (body : List Instruction) : List Instruction :=
  body ++ [dec r] ++ [jumpNotZero r start]

/-- A program that loads a number into a register, counts it down in a loop, and halts. -/
def countedLoop (r : Register) (n : UInt8) (body : List Instruction) : List Instruction :=
  [loadImm r n] ++ loop r 3 body ++ [halt]

/-- How often a loop runs for the number that it counts down. -/
def turns (n : UInt8) : Nat := if n = 0 then 256 else n.toNat

theorem exists_turns_eq (n : UInt8) : ∃ k, turns n = k + 1 ∧ k < 256 ∧ n.toNat = (k + 1) % 256 := by
  have hn := n.toNat_lt
  unfold turns
  split
  · rename_i h
    exact ⟨255, rfl, by decide, by rw [h]; rfl⟩
  · rename_i h
    have h0 : n.toNat ≠ 0 := fun h' => h (UInt8.toNat_inj.1 h')
    exact ⟨n.toNat - 1, by omega, by omega, by omega⟩

theorem encodeAll_loop (r : Register) (start : UInt8) (body : List Instruction) :
    encodeAll (loop r start body) =
      encodeAll (body ++ [dec r]) ++ (jumpNotZero r start).encode := by
  rw [loop, encodeAll_append, encodeAll_cons, encodeAll_nil, List.append_nil]

theorem register_meaning {i : Instruction} {r : Register} (h : i.destination? ≠ some r)
    (c : Cells) : (i.meaning c).register r = c.register r := by
  have hu (d : Register) (n : Nat) (hd : some d ≠ some r) :
      (c.putRegister d n).register r = c.register r :=
    Function.update_of_ne (fun he => hd (congrArg some he.symm)) _ _
  cases i with
  | halt | nop | jump | jumpZero | jumpNotZero | store => rfl
  | loadImm | move | load | add | sub | inc | dec | and | or | xor => exact hu _ _ h

theorem register_foldl_meaning {is : List Instruction} {r : Register}
    (h : ∀ i ∈ is, i.destination? ≠ some r) (c : Cells) :
    (is.foldl (fun c i => i.meaning c) c).register r = c.register r := by
  induction is generalizing c with
  | nil => rfl
  | cons i is ih =>
    have hi : (i.meaning c).register r = c.register r := register_meaning (h i (by simp)) c
    rw [List.foldl_cons, ih fun j hj => h j (by simp [hj]), hi]

theorem register_turnMeaning {body : List Instruction} {r : Register}
    (h : ∀ i ∈ body, i.destination? ≠ some r) (c : Cells) :
    (turnMeaning r body c).register r = (c.register r + 255) % 256 := by
  rw [← register_foldl_meaning h c]
  exact Function.update_self _ _ _

/-- `CountsDown r start body`: in a loop at `start`, control falls through the body, which neither
overwrites the counting register nor stores into the loop. -/
structure CountsDown (r : Register) (start : UInt8) (body : List Instruction) : Prop where
  straight : ∀ i ∈ body, i.isStraight
  keeps : ∀ i ∈ body, i.destination? ≠ some r
  behind : ∀ s a, .store s a ∈ body → start.toNat + (encodeAll (loop r start body)).length ≤ a.toNat

end Instruction

namespace Machine

open Instruction

structure AtLoop (m : Machine) (r : Register) (start : UInt8) (body : List Instruction) : Prop where
  pc_eq : m.pc.toNat = start.toNat
  holds : m.Holds start.toNat (encodeAll (loop r start body))

def turn (m : Machine) (r : Register) (start : UInt8) (body : List Instruction) : Machine :=
  let m₁ := m.passAll (body ++ [dec r])
  { m₁.retire with pc := (jumpNotZero r start).successor m₁ }

section

variable {m : Machine} {r : Register} {start : UInt8} {body : List Instruction}

theorem cells_turn : (m.turn r start body).cells = turnMeaning r body m.cells := by
  have hc : (m.turn r start body).cells = (m.passAll (body ++ [dec r])).cells := rfl
  rw [hc, cells_passAll, List.foldl_append]
  rfl

theorem toNat_register_turn (hb : CountsDown r start body) :
    ((m.turn r start body).register r).toNat = ((m.register r).toNat + 255) % 256 := by
  have hc : ((m.turn r start body).register r).toNat = (turnMeaning r body m.cells).register r :=
    congrArg (fun c => c.register r) cells_turn
  rw [hc, register_turnMeaning hb.keeps]
  rfl

theorem memory_turn {k : Nat} (h : ∀ s a, .store s a ∈ body → a.toNat ≠ k) :
    (m.turn r start body).memory[k]? = m.memory[k]? := by
  have hm : (m.turn r start body).memory = (m.passAll (body ++ [dec r])).memory := rfl
  rw [hm]
  apply memory_passAll
  intro s a hs
  exact h s a (by simpa using hs)

/-- Behind the body and the decrement control is at the jump. -/
theorem AtLoop.pc_passAll (h : m.AtLoop r start body) :
    (m.passAll (body ++ [dec r])).pc.toNat =
      start.toNat + (encodeAll (body ++ [dec r])).length := by
  have hl := h.holds
  rw [encodeAll_loop] at hl
  have hend := hl.right.end_le (List.cons_ne_nil _ _)
  unfold memorySize at hend
  rw [Machine.pc_passAll, UInt16.toNat_add, UInt16.toNat_ofNat', h.pc_eq]
  omega

theorem AtLoop.advances_turn (h : m.AtLoop r start body) (hb : CountsDown r start body) :
    Advances (body.length + 2) m (m.turn r start body) := by
  have hl := h.holds
  have hbehind := hb.behind
  rw [encodeAll_loop] at hl hbehind
  rw [List.length_append] at hbehind
  have hstore : ∀ s a, .store s a ∈ body ++ [dec r] → start.toNat +
      ((encodeAll (body ++ [dec r])).length + (jumpNotZero r start).encode.length) ≤ a.toNat := by
    intro s a hs
    exact hbehind s a (by simpa using hs)
  have hadv : Advances (body ++ [dec r]).length m (m.passAll (body ++ [dec r])) := by
    apply advances_passAll
    · intro i hi
      rcases List.mem_append.1 hi with hi | hi
      · exact hb.straight i hi
      · obtain rfl := List.mem_singleton.1 hi
        rfl
    · rw [h.pc_eq]
      exact hl.left
    · intro s a hs
      have ha := hstore s a hs
      rw [h.pc_eq]
      omega
  -- The jump still lies where it lay, and is carried out there.
  have hjump : (m.passAll (body ++ [dec r])).Holds (m.passAll (body ++ [dec r])).pc.toNat
      (jumpNotZero r start).encode := by
    rw [h.pc_passAll]
    apply hl.right.of_memory_eq
    intro k hk
    apply memory_passAll
    intro s a hs
    have ha := hstore s a hs
    omega
  have hstep : (m.passAll (body ++ [dec r])).step = .next (m.turn r start body) :=
    (step_eq_next_iff _ _).2 ⟨_, hjump.fetch_eq, by simp, rfl⟩
  have hadv' := hadv.trans (.step hstep (.refl _))
  rwa [List.length_append] at hadv'

theorem AtLoop.turn (h : m.AtLoop r start body) (hb : CountsDown r start body)
    (hr : (m.turn r start body).register r ≠ 0) : (m.turn r start body).AtLoop r start body := by
  constructor
  · have hp : (m.turn r start body).pc = start.toUInt16 := by
      have ht : (jumpNotZero r start).takenTarget? (m.passAll (body ++ [dec r])) = some start :=
        if_neg hr
      simp only [Machine.turn, successor, ht]
    rw [hp, UInt8.toNat_toUInt16]
  · apply h.holds.of_memory_eq
    intro k hk
    apply memory_turn
    intro s a hs
    have ha := hb.behind s a hs
    omega

/-- From zero the jump is not taken. -/
theorem AtLoop.pc_turn (h : m.AtLoop r start body) (hr : (m.turn r start body).register r = 0) :
    (m.turn r start body).pc.toNat = start.toNat + (encodeAll (loop r start body)).length := by
  have hp : (m.turn r start body).pc = (m.passAll (body ++ [dec r])).pc + 3 := by
    have ht : (jumpNotZero r start).takenTarget? (m.passAll (body ++ [dec r])) = none := if_pos hr
    simp only [Machine.turn, successor, ht]
    rfl
  have hl : (encodeAll (loop r start body)).length =
      (encodeAll (body ++ [dec r])).length + 3 := by
    rw [encodeAll_loop, List.length_append]
    rfl
  have hend := h.holds.end_le (List.ne_nil_of_length_pos (by omega))
  unfold memorySize at hend
  rw [hp, UInt16.toNat_add, h.pc_passAll]
  simp only [UInt16.reduceToNat]
  omega

/-- With `k + 1` turns to go, the register holds that number modulo 256. -/
theorem AtLoop.advances {k : Nat} (hk : k < 256) (hr : (m.register r).toNat = (k + 1) % 256)
    (h : m.AtLoop r start body) (hb : CountsDown r start body) :
    ∃ m', Advances ((k + 1) * (body.length + 2)) m m' ∧
      m'.pc.toNat = start.toNat + (encodeAll (loop r start body)).length ∧ m'.register r = 0 ∧
      m'.cells = (turnMeaning r body)^[k + 1] m.cells ∧
      ∀ i, (∀ s a, .store s a ∈ body → a.toNat ≠ i) → m'.memory[i]? = m.memory[i]? := by
  have hadv := h.advances_turn hb
  have hr' := toNat_register_turn (m := m) hb
  induction k generalizing m with
  | zero =>
    have hz : (m.turn r start body).register r = 0 := by
      apply UInt8.toNat_inj.1
      rw [hr', hr]
      rfl
    rw [Nat.zero_add, Nat.one_mul]
    refine ⟨m.turn r start body, hadv, h.pc_turn hz, hz, cells_turn, ?_⟩
    intro i hi
    exact memory_turn hi
  | succ k ih =>
    have hr₁ : ((m.turn r start body).register r).toNat = (k + 1) % 256 := by omega
    have hne : (m.turn r start body).register r ≠ 0 := by
      intro hz
      rw [hz] at hr₁
      simp only [UInt8.reduceToNat] at hr₁
      omega
    have h₁ := h.turn hb hne
    obtain ⟨m', ha, hp, hz, hc, hm⟩ :=
      ih (by omega) hr₁ h₁ (h₁.advances_turn hb) (toNat_register_turn hb)
    refine ⟨m', ?_, hp, hz, ?_, ?_⟩
    · rw [Nat.succ_mul, Nat.add_comm]
      exact hadv.trans ha
    · rw [hc, cells_turn, Function.iterate_succ_apply _ (k + 1)]
    · intro i hi
      rw [hm i hi, memory_turn hi]

end

end Machine

namespace Session

open Instruction

/-- The program runs to its halt instruction: the number is loaded, and the turns are taken. -/
theorem exists_advances_countedLoop {r : Register} {n : UInt8} {body : List Instruction}
    (hi : ∀ i ∈ body, i.isStraight) (hd : ∀ i ∈ body, i.destination? ≠ some r)
    (hl : (encodeAll (countedLoop r n body)).length ≤ 256)
    (ha : ∀ s a, .store s a ∈ body → (encodeAll (countedLoop r n body)).length ≤ a.toNat) :
    ∃ m, Machine.Advances (turns n * (body.length + 2) + 1)
        (loaded (encodeAll (countedLoop r n body))).machine m ∧
      m.pc.toNat + 1 = (encodeAll (countedLoop r n body)).length ∧
      m.memory[m.pc.toNat]? = some 0 ∧ m.register r = 0 ∧
      m.cells = (turnMeaning r body)^[turns n]
        ((Cells.ofProgram (encodeAll (countedLoop r n body))).putRegister r n.toNat) := by
  have he : encodeAll (countedLoop r n body) =
      (loadImm r n).encode ++ (encodeAll (loop r 3 body) ++ halt.encode) := by
    simp [countedLoop, encodeAll_append]
  have hlen : (encodeAll (countedLoop r n body)).length =
      3 + ((encodeAll (loop r 3 body)).length + 1) := by
    rw [he, List.length_append, List.length_append]
    rfl
  -- Loading the number leaves the code of the loop in its place.
  let m₁ := (loaded (encodeAll (countedLoop r n body))).machine.pass (loadImm r n)
  have hh : (loaded (encodeAll (countedLoop r n body))).machine.Holds 0
      ((loadImm r n).encode ++ (encodeAll (loop r 3 body) ++ halt.encode)) := by
    rw [← he]
    exact Machine.holds_imageOf hl
  have hh₁ : m₁.Holds 0
      ((loadImm r n).encode ++ (encodeAll (loop r 3 body) ++ halt.encode)) := hh
  have hs : (loaded (encodeAll (countedLoop r n body))).machine.step = .next m₁ :=
    Machine.step_of_holds rfl hh.left
  have hloop : m₁.AtLoop r 3 body := ⟨rfl, hh₁.right.left⟩
  have hb : CountsDown r 3 body := by
    refine ⟨hi, hd, ?_⟩
    intro s a hs
    have hb := ha s a hs
    change 3 + _ ≤ _
    omega
  have hr : m₁.register r = n := Machine.register_setRegister_self _ r n
  have hc₁ : m₁.cells =
      (Cells.ofProgram (encodeAll (countedLoop r n body))).putRegister r n.toNat := by
    rw [← Machine.cells_imageOf]
    exact Machine.cells_setRegister _ r n
  obtain ⟨k, hk, hlt, hn⟩ := exists_turns_eq n
  obtain ⟨m, hadv, hp, hz, hc, hm⟩ := hloop.advances hlt (hr.symm ▸ hn) hb
  change m.pc.toNat = 3 + _ at hp
  rw [hk]
  refine ⟨m, .step hs hadv, by omega, ?_, hz, by rw [hc, hc₁]⟩
  have hlast : m₁.memory[m.pc.toNat]? = some 0 := by
    rw [hp]
    have hlast := hh₁.right.right 0 0 rfl
    rwa [Nat.zero_add] at hlast
  rw [hm, hlast]
  intro s a hs
  have hb := ha s a hs
  omega

/-- A loop that counts a register down from a number, around straight-line code that leaves this
register alone and stores nothing into the program, is taken as often as the number says, and 256
times from zero. It halts at the end of the program, and leaves what so many turns make of the image
and of that number. -/
theorem execute_countedLoop (r : Register) (n : UInt8) (body : List Instruction)
    (hi : ∀ i ∈ body, i.isStraight) (hd : ∀ i ∈ body, i.destination? ≠ some r)
    (hl : (encodeAll (countedLoop r n body)).length ≤ 256)
    (ha : ∀ s a, .store s a ∈ body → (encodeAll (countedLoop r n body)).length ≤ a.toNat) :
    ∃ s execution s', load (encodeAll (countedLoop r n body)) = .ok s ∧
      s.execute = some (execution, s') ∧ execution.fault? = none ∧
      s'.machine.status = { halted := true } ∧
      s'.machine.pc.toNat = (encodeAll (countedLoop r n body)).length - 1 ∧
      s'.machine.register r = 0 ∧
      execution.retired.toNat = 2 + turns n * (body.length + 2) ∧
      s'.machine.cells = (turnMeaning r body)^[turns n]
        ((Cells.ofProgram (encodeAll (countedLoop r n body))).putRegister r n.toNat) := by
  have hp : programOfBytes? (encodeAll (countedLoop r n body)) =
      some (encodeAll (countedLoop r n body)) := if_pos hl
  obtain ⟨m, hadv, hpc, hz, hr, hc⟩ := exists_advances_countedLoop hi hd hl ha
  have hex := execute_loaded hadv (Machine.stopsWith_halted hz)
  refine ⟨_, _, _, load_eq_loaded hp, hex, rfl, rfl, Nat.eq_sub_of_add_eq hpc, hr, ?_, hc⟩
  -- The counter does not wrap around: there are at most 256 turns of at most 258 instructions.
  have hcycles : m.cycles = .ofNat (turns n * (body.length + 2) + 1) := by
    rw [hadv.cycles_eq]
    exact UInt32.zero_add _
  have hbody : body.length ≤ 256 := by
    have hle := length_le_length_encodeAll (countedLoop r n body)
    have hb : (countedLoop r n body).length = 1 + (body.length + 1 + 1) + 1 := by
      simp only [countedLoop, loop, List.length_append, List.length_singleton]
    omega
  have hturns : turns n * (body.length + 2) ≤ 256 * 258 := by
    obtain ⟨k, hk, hlt, -⟩ := exists_turns_eq n
    exact Nat.mul_le_mul (by omega) (by omega)
  have hm : m.retire.cycles.toNat = 2 + turns n * (body.length + 2) := by
    rw [Machine.retire, UInt32.toNat_add, hcycles, UInt32.toNat_ofNat', UInt32.toNat_one]
    omega
  exact hm

/-- The numbers from three down are summed up and stored behind the program; and nothing is done 256
times. -/
theorem execute_countedLoop_sum :
    let body : List Instruction := [.add 1 0, .store 1 0xf0]
    (∃ s execution s', load (encodeAll (countedLoop 0 3 body)) = .ok s ∧
      s.execute = some (execution, s') ∧ execution.fault? = none ∧
      execution.retired.toNat = 14 ∧ s'.machine.pc.toNat = 14 ∧
      (s'.machine.cells.register 1, s'.machine.cells.byte 0xf0) = (6, 6)) ∧
    ∃ s execution s', load (encodeAll (countedLoop 5 0 [])) = .ok s ∧
      s.execute = some (execution, s') ∧ execution.fault? = none ∧
      execution.retired.toNat = 514 ∧ s'.machine.pc.toNat = 8 ∧ s'.machine.register 5 = 0 := by
  intro body
  have hb : ∀ s a, .store s a ∈ body → (encodeAll (countedLoop 0 3 body)).length ≤ a.toNat := by
    intro s a hm
    obtain ⟨-, rfl⟩ : s = 1 ∧ a = 0xf0 := by simpa [body] using hm
    decide
  obtain ⟨s, execution, s', hload, hex, hf, -, hpc, -, hr, hc⟩ :=
    execute_countedLoop 0 3 body (by decide) (by decide) (by decide) hb
  obtain ⟨t, execution', t', hload', hex', hf', -, hpc', hz, hr', -⟩ :=
    execute_countedLoop 5 0 [] (by simp) (by simp) (by decide) (by simp)
  refine ⟨⟨s, execution, s', hload, hex, hf, hr, hpc, ?_⟩,
    t, execution', t', hload', hex', hf', hr', hpc', hz⟩
  rw [hc]
  decide +kernel

end Session

end HexMonitor
