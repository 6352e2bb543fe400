import HexMonitor.Proofs.Refusal
import HexMonitor.Proofs.Runs

namespace HexMonitor

inductive Operation
  | loadBinary (program : Bytes)
  | loadHex (text : Bytes)
  | execute
  | dump (capacity : Nat)
  | dumpInto (buffer : Bytes)
  deriving DecidableEq, Repr

namespace Operation

def program? : Operation → Option Bytes
  | loadBinary bytes => programOfBytes? bytes
  | loadHex text => programOfText? text
  | execute | dump _ | dumpInto _ => none

def changes (op : Operation) : Bool := op = execute ∨ op.program?.isSome

theorem length_le_of_program? {op : Operation} {program : Bytes}
    (h : op.program? = some program) : program.length ≤ memorySize := by
  cases op with
  | loadBinary bytes => exact length_le_of_programOfBytes? h
  | loadHex text => exact length_le_of_programOfText? h
  | execute | dump | dumpInto => cases h

end Operation

def lastChange? (ops : List Operation) : Option Operation := (ops.filter (·.changes)).getLast?

namespace Session

/-- The session after an operation; `none` if it executes a program that never stops. A load that is
turned down leaves the session as it is, and so does a dump. -/
def after (s : Session) : Operation → Option Session
  | .loadBinary program => some ((load program).toOption.getD s)
  | .loadHex text => some ((loadHex text).toOption.getD s)
  | .execute => s.execute.map (·.2)
  | .dump _ | .dumpInto _ => some s

def afterAll (s : Session) : List Operation → Option Session
  | [] => some s
  | op :: ops => (s.after op).bind (afterAll · ops)

/-- `Left op? s`: the session `s` is what the change `op?` leaves, the fresh session without any
change. -/
inductive Left : Option Operation → Session → Prop
  | fresh : Left none fresh
  | load {op : Operation} {program : Bytes} (h : op.program? = some program) :
      Left (some op) (loaded program)
  | execute {s : Session} {stop : Stop} (hp : s.phase = .executed)
      (hpc : s.machine.pc.toNat ≤ memorySize) (h : s.machine.AtRest stop) : Left (some .execute) s

theorem Left.pc_le {op? : Option Operation} {s : Session} (h : Left op? s) :
    s.machine.pc.toNat ≤ memorySize := by
  cases h with
  | fresh | load => exact Nat.zero_le memorySize
  | execute _ hpc => exact hpc

theorem lastChange?_concat (ops : List Operation) (op : Operation) :
    lastChange? (ops ++ [op]) = if op.changes then some op else lastChange? ops := by
  by_cases h : op.changes = true <;> simp [lastChange?, h]

theorem execute_eq_some {s s' : Session} {execution : Execution}
    (h : s.execute = some (execution, s')) :
    ∃ stop m, s.machine.run = some (stop, m) ∧
      execution = ⟨m.cycles - s.machine.cycles, stop.fault?⟩ ∧ s' = ⟨m, .executed⟩ := by
  rw [execute, Option.map_eq_some_iff] at h
  obtain ⟨⟨stop, m⟩, hr, he⟩ := h
  cases he
  exact ⟨stop, m, hr, rfl, rfl⟩

/-- A load either takes effect or leaves the session as it is. -/
theorem after_eq_loaded {s : Session} {op : Operation} {program : Bytes}
    (h : op.program? = some program) : s.after op = some (loaded program) := by
  cases op with
  | loadBinary bytes => rw [after, load_eq_loaded h]; rfl
  | loadHex text => rw [after, loadHex_eq_loaded h]; rfl
  | execute | dump | dumpInto => cases h

theorem after_eq_self {s : Session} {op : Operation} (h : op.changes = false) :
    s.after op = some s := by
  cases op with
  | loadBinary bytes =>
    have hp : programOfBytes? bytes = none := by simpa [Operation.changes, Operation.program?] using h
    rw [after, toOption_load_eq_none hp]
    rfl
  | loadHex text =>
    have hp : programOfText? text = none := by simpa [Operation.changes, Operation.program?] using h
    rw [after, toOption_loadHex_eq_none hp]
    rfl
  | execute => cases h
  | dump | dumpInto => rfl

theorem Left.after {ops : List Operation} {op : Operation} {s s' : Session}
    (h : Left (lastChange? ops) s) (hs : s.after op = some s') :
    Left (lastChange? (ops ++ [op])) s' := by
  rw [lastChange?_concat]
  split
  · rename_i hc
    cases hp : op.program? with
    | some program =>
      obtain rfl := Option.some.inj (hs.symm.trans (after_eq_loaded hp))
      exact .load hp
    | none =>
      -- What changes the session and loads nothing is an execution.
      obtain rfl : op = .execute := by simpa [Operation.changes, hp] using hc
      obtain ⟨⟨execution, s₁⟩, he, rfl⟩ := Option.map_eq_some_iff.1 hs
      obtain ⟨stop, m, hr, -, rfl⟩ := execute_eq_some he
      exact .execute rfl (Machine.pc_le_of_run hr h.pc_le) (Machine.atRest_of_run hr)
  · rename_i hc
    cases hs.symm.trans (after_eq_self (by simpa using hc))
    exact h

theorem Left.afterAll {before ops : List Operation} {s s' : Session}
    (h : Left (lastChange? before) s) (hs : s.afterAll ops = some s') :
    Left (lastChange? (before ++ ops)) s' := by
  induction ops generalizing before s with
  | nil =>
    cases hs
    rwa [List.append_nil]
  | cons op ops ih =>
    obtain ⟨s₁, h₁, hs⟩ := Option.bind_eq_some_iff.1 hs
    rw [List.append_cons]
    exact ih (h.after h₁) hs

theorem lastChange?_eq_none_iff (ops : List Operation) :
    lastChange? ops = none ↔ ∀ op ∈ ops, op.program? = none ∧ op ≠ .execute := by
  simp [lastChange?, Operation.changes, and_comm]

/-- `Agrees ops s`: the phase of `s` tells which of the operations `ops` was the last to change the
session, and the machine is as that operation leaves it. -/
structure Agrees (ops : List Operation) (s : Session) : Prop where
  pc_le : s.machine.pc ≤ 256
  flags : ¬ (s.machine.status.halted = true ∧ s.machine.status.faulted = true)
  empty_iff : s.phase = .empty ↔ ∀ op ∈ ops, op.program? = none ∧ op ≠ .execute
  empty_image : s.phase = .empty → s.machine.image = List.replicate 271 0
  loaded_iff : s.phase = .loaded ↔
    ∃ op program, lastChange? ops = some op ∧ op.program? = some program
  loaded_machine : ∀ op program, lastChange? ops = some op → op.program? = some program →
    s.machine.memory.toList = program ++ List.replicate (256 - program.length) 0 ∧
      s.machine.registers = Vector.replicate 8 0 ∧ s.machine.pc = 0 ∧
      s.machine.status = .clear ∧ s.machine.cycles = 0
  executed_iff : s.phase = .executed ↔ lastChange? ops = some .execute
  executed_flags : s.phase = .executed → s.machine.status.halted ≠ s.machine.status.faulted
  halted : s.machine.status.halted = true →
    s.machine.pc ≤ 255 ∧ s.machine.memory[s.machine.pc.toNat]? = some 0
  faulted : s.machine.status.faulted = true →
    ∃ f, s.machine.step = .faulted f ∧ s.machine.Faults f

theorem agrees_fresh {ops : List Operation} (hl : lastChange? ops = none) :
    Agrees ops Session.fresh where
  pc_le := by decide
  flags := by decide
  empty_iff := ⟨fun _ => (lastChange?_eq_none_iff ops).1 hl, fun _ => rfl⟩
  empty_image := fun _ => by decide +kernel
  loaded_iff := by simp [hl, Session.fresh]
  loaded_machine := fun op program ho _ => by cases hl.symm.trans ho
  executed_iff := by simp [hl, Session.fresh]
  executed_flags := fun hp => by cases hp
  halted := fun hh => by cases hh
  faulted := fun hf => by cases hf

theorem agrees_loaded {ops : List Operation} {op : Operation} {program : Bytes}
    (hl : lastChange? ops = some op) (h : op.program? = some program) :
    Agrees ops (Session.loaded program) where
  pc_le := (by decide : (0 : UInt16) ≤ 256)
  flags := fun hf => by cases hf.1
  empty_iff := by simp [← lastChange?_eq_none_iff, hl, Session.loaded]
  empty_image := fun hp => by cases hp
  loaded_iff := by simp [hl, h, Session.loaded]
  loaded_machine := by
    intro op' program' ho hp
    cases hl.symm.trans ho
    cases h.symm.trans hp
    exact ⟨Machine.toList_imageOf (Operation.length_le_of_program? h), rfl, rfl, rfl, rfl⟩
  executed_iff := by
    have he : op ≠ .execute := by
      rintro rfl
      cases h
    simp [hl, he, Session.loaded]
  executed_flags := fun hp => by cases hp
  halted := fun hh => by cases hh
  faulted := fun hf => by cases hf

theorem agrees_executed {ops : List Operation} {s : Session} {stop : Stop}
    (hl : lastChange? ops = some .execute) (hp : s.phase = .executed)
    (hpc : s.machine.pc.toNat ≤ memorySize) (h : s.machine.AtRest stop) : Agrees ops s where
  pc_le := by simpa [UInt16.le_iff_toNat_le, memorySize] using hpc
  flags := by cases stop <;> simp [h.status_eq, Stop.status]
  empty_iff := by simp [← lastChange?_eq_none_iff, hl, hp]
  empty_image := fun he => by cases hp.symm.trans he
  loaded_iff := by simp [hl, hp, Operation.program?]
  loaded_machine := by
    intro op program ho h
    cases hl.symm.trans ho
    cases h
  executed_iff := by simp [hl, hp]
  executed_flags := fun _ => by cases stop <;> simp [h.status_eq, Stop.status]
  halted := by
    intro hh
    cases stop with
    | halted =>
      have hz := h.zero_at_pc
      obtain ⟨hlt, -⟩ := Vector.getElem?_eq_some_iff.1 hz
      refine ⟨UInt16.le_iff_toNat_le.2 ?_, hz⟩
      have hb : (255 : UInt16).toNat = 255 := rfl
      omega
    | faulted f => simp [h.status_eq, Stop.status] at hh
  faulted := by
    intro hf
    cases stop with
    | halted => simp [h.status_eq, Stop.status] at hf
    | faulted f => exact ⟨f, (s.machine.step_eq_faulted_iff f).2 h.faults, h.faults⟩

theorem Left.agrees {ops : List Operation} {s : Session} (h : Left (lastChange? ops) s) :
    Agrees ops s := by
  generalize hl : lastChange? ops = op? at h
  cases h with
  | fresh => exact agrees_fresh hl
  | load h => exact agrees_loaded hl h
  | execute hp hpc h => exact agrees_executed hl hp hpc h

/-- Without a load in between, executing a session at rest always ends, and changes the cycle
counter only. -/
theorem afterAll_atRest {s : Session} {stop : Stop} (hp : s.phase = .executed)
    (h : s.machine.AtRest stop) {later : List Operation}
    (hl : ∀ op ∈ later, op.program? = none) :
    ∃ c, s.afterAll later = some ⟨{ s.machine with cycles := c }, .executed⟩ := by
  induction later generalizing s with
  | nil =>
    obtain ⟨machine, phase⟩ := s
    cases hp
    exact ⟨machine.cycles, rfl⟩
  | cons op later ih =>
    have hl' : ∀ op' ∈ later, op'.program? = none := fun op' h => hl op' (by simp [h])
    by_cases he : op = .execute
    · -- Only the cycle counter moves, and the machine stays at rest.
      obtain ⟨c, hr⟩ : ∃ c, s.machine.run = some (stop, { s.machine with cycles := c }) :=
        ⟨_, h.run_eq⟩
      have ha : s.after op = some ⟨{ s.machine with cycles := c }, .executed⟩ := by
        rw [he, after, execute, hr]
        rfl
      rw [afterAll, ha, Option.bind_some]
      exact ih rfl (h.with_cycles c) hl'
    · have hc : op.changes = false := by simp [Operation.changes, he, hl op (by simp)]
      rw [afterAll, after_eq_self hc, Option.bind_some]
      exact ih hp h hl'

/-- Phase, status and program counter agree after any operations; and from an execution on they stay
as they are, with memory and registers, until a program is loaded. -/
theorem agrees_of_afterAll (ops : List Operation) (s : Session)
    (h : Session.fresh.afterAll ops = some s) :
    Agrees ops s ∧ (s.phase = .executed → ∀ later : List Operation,
      (∀ op ∈ later, op.program? = none) →
      ∃ c, s.afterAll later = some ⟨{ s.machine with cycles := c }, .executed⟩) := by
  have hl : Left (lastChange? ops) s := @Left.afterAll [] ops fresh s .fresh h
  constructor
  · exact hl.agrees
  · intro hp later hn
    generalize lastChange? ops = op? at hl
    cases hl with
    | fresh | load => cases hp
    | execute _ _ hr => exact afterAll_atRest hp hr hn

/-- A program that names register nine is loaded after a text that is turned down, and executed
twice. -/
theorem agrees_after_bad_register :
    ∃ s, Session.fresh.afterAll [.loadHex [0x30], .loadBinary [0x32, 0x09], .execute, .dump 7] =
        some s ∧
      s.phase = .executed ∧ s.machine.status.faulted = true ∧
      (∃ f, s.machine.step = .faulted f ∧ s.machine.Faults f) ∧
      ∃ c, s.afterAll [.execute, .dumpInto []] =
        some ⟨{ s.machine with cycles := c }, .executed⟩ := by
  have h : ((Session.fresh.afterAll
      [.loadHex [0x30], .loadBinary [0x32, 0x09], .execute, .dump 7]).any fun s =>
        s.phase = .executed ∧ s.machine.status.faulted = true) = true := by
    decide +kernel
  obtain ⟨s, hs, h⟩ := (Option.any_eq_true _ _).1 h
  obtain ⟨hp, hf⟩ := of_decide_eq_true h
  obtain ⟨ha, hr⟩ := agrees_of_afterAll _ s hs
  exact ⟨s, hs, hp, hf, ha.faulted hf, hr hp _ (by decide)⟩

end Session

end HexMonitor
