import HexMonitor.Hex.Bounded
import HexMonitor.Machine.Image
import HexMonitor.Machine.Run

namespace HexMonitor

def dumpLength : Nat := 2 * stateSize

inductive Phase
  /-- Nothing was loaded or executed yet. -/
  | empty
  /-- A program is in memory and has not been executed since it was loaded. -/
  | loaded
  /-- The machine ran until it stopped. -/
  | executed
  deriving DecidableEq, Repr

def Phase.name : Phase → String
  | empty => "empty"
  | loaded => "loaded"
  | executed => "executed"

structure Execution where
  /-- Instructions completed, modulo the range of the cycle counter. -/
  retired : UInt32
  /-- Present if the program stopped by a fault. -/
  fault? : Option Fault
  deriving DecidableEq, Repr

structure Session where
  machine : Machine := .zero
  phase : Phase := .empty
  deriving DecidableEq, Repr

namespace Session

def fresh : Session := {}

/-- The session after a program was loaded; nothing of an earlier session survives. -/
def load (program : Bytes) : Except Rejection Session :=
  match Machine.load program with
  | .error e => .error (.ofLoadError e)
  | .ok machine => .ok { machine, phase := .loaded }

def loadHex (text : Bytes) : Except Rejection Session :=
  match Hex.read text with
  | .error rejection => .error rejection
  | .ok program => load program

/-- Runs the machine until it stops; `none` if it never does. -/
def execute (s : Session) : Option (Execution × Session) :=
  s.machine.run.map fun (stop, machine) =>
    (⟨machine.cycles - s.machine.cycles, stop.fault?⟩, { machine, phase := .executed })

def dump (s : Session) (capacity : Nat) : Except Rejection Bytes :=
  Hex.encodeWithin s.machine.image capacity

def dumpInto (s : Session) (buffer : Bytes) : Except Rejection Nat × Bytes :=
  Hex.encodeInto s.machine.image buffer

end Session

end HexMonitor
