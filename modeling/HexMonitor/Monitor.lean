import HexMonitor.Session

namespace HexMonitor

inductive LoadMode
  | fused
  | split
  deriving DecidableEq, Repr

def LoadMode.name : LoadMode → String
  | fused => "fused"
  | split => "split"

def LoadMode.ofName? (name : String) : Option LoadMode :=
  if name = "fused" then some fused else if name = "split" then some split else none

@[simp] theorem LoadMode.ofName?_name (mode : LoadMode) : ofName? mode.name = some mode := by
  cases mode <;> rfl

inductive Command
  | loadBinary (program : Bytes)
  | loadHex (text : Bytes)
  | execute
  | dump
  deriving DecidableEq, Repr

def Command.name : Command → String
  | loadBinary _ => "load_binary"
  | loadHex _ => "load_hex"
  | execute => "execute"
  | dump => "dump"

structure Reply where
  dump : Bytes
  phase : Phase
  /-- Present if this command executed the program and it stopped by a fault. -/
  fault? : Option Fault
  deriving DecidableEq, Repr

structure Monitor where
  session : Session := .fresh
  mode : LoadMode
  /-- The most characters a dump may have. -/
  dumpCapacity : Nat
  deriving DecidableEq, Repr

namespace Monitor

/-- The session that a command works on, and whether the command executes it. -/
def prepare (m : Monitor) : Command → Except Rejection (Session × Bool)
  | .loadBinary program => (Session.load program).map (·, m.mode == .fused)
  | .loadHex text => (Session.loadHex text).map (·, m.mode == .fused)
  | .execute => .ok (m.session, true)
  | .dump => .ok (m.session, false)

def report (m : Monitor) (s : Session) (fault? : Option Fault) : Except Rejection Reply × Monitor :=
  ((s.dump m.dumpCapacity).map fun dump => ⟨dump, s.phase, fault?⟩, { m with session := s })

/-- Carries out one command: the reply or the rejection, and the monitor afterwards; `none` if the
command executes a program that never stops. The room for the dump is checked before anything
else. -/
def answer (m : Monitor) (c : Command) : Option (Except Rejection Reply × Monitor) :=
  if dumpLength > m.dumpCapacity then
    some (.error (.bufferTooSmall dumpLength m.dumpCapacity), m)
  else
    match m.prepare c with
    | .error rejection => some (.error rejection, m)
    | .ok (s, false) => some (m.report s none)
    | .ok (s, true) => s.execute.map fun (execution, s') => m.report s' execution.fault?

def answerAll (m : Monitor) : List Command → Option (List (Except Rejection Reply) × Monitor)
  | [] => some ([], m)
  | c :: cs => do
    let (r, m') ← m.answer c
    let (rs, m'') ← m'.answerAll cs
    return (r :: rs, m'')

end Monitor

end HexMonitor
