import HexMonitor.Settings.Basic

/-!
Settings on the command line. An option's value is attached to it (`--name=value`, `-lvalue`,
`-l=value`) or is the next argument, which must not look like an option itself. Arguments are
judged left to right and the first fault decides, but a value that is an argument of its own is
only judged when the next known option begins or the arguments end.
-/

namespace HexMonitor.Settings

inductive Switch
  | cors | help | version
  deriving DecidableEq, Repr

def Switch.optionName : Switch → String
  | cors => "cors"
  | help => "help"
  | version => "version"

inductive Flag
  | setting (s : Setting)
  | switch (w : Switch)
  deriving DecidableEq, Repr

def Flag.ofLong? (name : String) : Option Flag :=
  match Setting.all.find? (·.optionName = name) with
  | some s => some (.setting s)
  | none => ([Switch.cors, .help, .version].find? (·.optionName = name)).map .switch

def Flag.ofShort? : Char → Option Flag
  | 'l' => some (.setting .listen)
  | 'w' => some (.setting .www)
  | 'h' => some (.switch .help)
  | 'V' => some (.switch .version)
  | _ => none

/-- What an argument looks like. A single dash and the empty text are plain. -/
inductive Argument
  | separator
  | long (name : String) (value? : Option String)
  | cluster (letters : List Char)
  | plain (text : String)
  deriving DecidableEq, Repr

def Argument.ofText (text : String) : Argument :=
  match text.toList with
  | ['-', '-'] => separator
  | '-' :: '-' :: rest =>
    let name := String.ofList (rest.takeWhile (· ≠ '='))
    match rest.dropWhile (· ≠ '=') with
    | [] => long name none
    | _ :: value => long name (some (String.ofList value))
  | '-' :: letter :: letters => cluster (letter :: letters)
  | _ => plain text

/-- The last option, while its value is not judged yet. -/
inductive Pending
  | nothing
  | awaiting (s : Setting)
  | holding (s : Setting) (text : String)
  deriving DecidableEq, Repr

namespace Draft

/-- Gives a setting its value from the command line, where each option may occur only once. -/
def give (d : Draft) (s : Setting) (text : String) : Except EarlyExit Draft :=
  if d.has s then .error (.repeated s.optionName) else d.put s text

def settle (d : Draft) : Pending → Except EarlyExit Draft
  | .nothing => .ok d
  | .awaiting s => .error (.missingValue s.optionName)
  | .holding s text => d.give s text

/-- Turns a switch on. Help and version end the reading at once. -/
def turnOn (d : Draft) : Switch → Except EarlyExit Draft
  | .cors => if d.cors then .error (.repeated Switch.cors.optionName) else .ok { d with cors := true }
  | .help => .error .help
  | .version => .error .version

/-- Letters behind one dash: switches, and at the end perhaps an option with its value. -/
def readCluster (d : Draft) (p : Pending) : List Char → Except EarlyExit (Draft × Pending)
  | [] => .ok (d, p)
  | letter :: rest =>
    match Flag.ofShort? letter with
    | none => .error (.unknownArgument (String.ofList ['-', letter]))
    | some (.switch w) => do
      let d ← d.settle p
      let d ← d.turnOn w
      d.readCluster .nothing rest
    | some (.setting s) => do
      let d ← d.settle p
      match rest with
      | [] => return (d, .awaiting s)
      | '=' :: value => return (← d.give s (String.ofList value), .nothing)
      | value => return (← d.give s (String.ofList value), .nothing)

/-- Reads the arguments that follow a last option. -/
def readArguments (d : Draft) (p : Pending) : List String → Except EarlyExit Draft
  | [] => d.settle p
  | text :: rest =>
    match Argument.ofText text with
    | .separator =>
      -- Whatever follows is a positional argument, and there are none.
      match rest with
      | [] => d.settle p
      | extra :: _ => .error (.unknownArgument extra)
    | .long name value? =>
      match Flag.ofLong? name, value? with
      | none, _ => .error (.unknownArgument text)
      -- This fault comes before any of the last option's value.
      | some (.switch w), some value => .error (.unexpectedValue w.optionName value)
      | some (.switch w), none => do
        let d ← d.settle p
        let d ← d.turnOn w
        d.readArguments .nothing rest
      | some (.setting s), some value => do
        let d ← d.settle p
        let d ← d.give s value
        d.readArguments .nothing rest
      | some (.setting s), none => do
        let d ← d.settle p
        d.readArguments (.awaiting s) rest
    | .cluster letters => do
      let (d, p) ← d.readCluster p letters
      d.readArguments p rest
    | .plain value =>
      -- A value that is held already is not replaced by a second one.
      match p with
      | .awaiting s => d.readArguments (.holding s value) rest
      | _ => .error (.unknownArgument text)

end Draft

def readCommandLine (arguments : List String) : Except EarlyExit Draft :=
  Draft.readArguments {} .nothing arguments

end HexMonitor.Settings
