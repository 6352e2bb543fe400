import HexMonitor.Machine.Step

/-!
Running a program to its end. Only memory, registers and the program counter decide what a machine
does next, and they take 2 ^ 2128 values together, so a run that has not stopped after that many
instructions has been in one situation twice and never stops.
-/

namespace HexMonitor

inductive Stop
  | halted
  | faulted (fault : Fault)
  deriving DecidableEq, Repr

def Stop.fault? : Stop → Option Fault
  | halted => none
  | faulted fault => some fault

def Stop.status : Stop → Status
  | halted => { halted := true }
  | faulted _ => { faulted := true }

namespace Machine

/-- The number of joint values of memory, registers and program counter: 264 bytes and one word. It
stays folded in proofs, which could not take it apart one by one. -/
@[irreducible] def configurationCount : Nat := Nat.pow 2 2128

/-- Executes at most `fuel` instructions; `none` if that does not reach a stop. A fault leaves the
state on the faulting instruction. -/
def runFor : Nat → Machine → Option (Stop × Machine)
  | 0, _ => none
  | fuel + 1, m =>
    match m.step with
    | .next m' => runFor fuel m'
    | .halted m' => some (.halted, { m' with status := Stop.halted.status })
    | .faulted fault => some (.faulted fault, { m with status := (Stop.faulted fault).status })

/-- Runs from the present program counter to a halt or a fault; `none` if the program never stops.
Flags of an earlier run are cleared first. -/
def run (m : Machine) : Option (Stop × Machine) :=
  runFor configurationCount { m with status := .clear }

/-- `Advances n m m'`: starting from `m`, `n` instructions complete without a halt and lead to
`m'`. -/
inductive Advances : Nat → Machine → Machine → Prop
  | refl (m : Machine) : Advances 0 m m
  | step {n : Nat} {m m₁ m₂ : Machine} (h : m.step = .next m₁) (rest : Advances n m₁ m₂) :
      Advances (n + 1) m m₂

/-- `StopsWith m stop m'`: the instruction at the program counter of `m` ends the run, and `m'` is
the state it leaves, flags aside. -/
inductive StopsWith : Machine → Stop → Machine → Prop
  | halt {m m' : Machine} (h : m.step = .halted m') : StopsWith m .halted m'
  | fault {m : Machine} {f : Fault} (h : m.step = .faulted f) : StopsWith m (.faulted f) m

/-- A finished answer does not change when more instructions are allowed. -/
theorem runFor_mono {n n' : Nat} {m : Machine} {r : Stop × Machine} (hn : n ≤ n')
    (h : runFor n m = some r) : runFor n' m = some r := by
  induction n generalizing m n' with
  | zero => simp [runFor] at h
  | succ n ih =>
    obtain ⟨k, rfl⟩ : ∃ k, n' = k + 1 := ⟨n' - 1, by omega⟩
    unfold runFor at h ⊢
    split at h
    · exact ih (by omega) h
    · exact h
    · exact h

end Machine

end HexMonitor
