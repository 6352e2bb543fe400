import HexMonitor.Settings.CommandLine

namespace HexMonitor

abbrev Environment := String → Option String

namespace Settings

/-- Takes a setting that is not given yet from its variable, which counts even if it is empty. -/
def Draft.consult (env : Environment) (d : Draft) (s : Setting) : Except EarlyExit Draft :=
  if d.has s then .ok d
  else
    match env s.environmentName with
    | none => .ok d
    | some text => d.put s text

def Draft.consultAll (env : Environment) (d : Draft) : Except EarlyExit Draft :=
  Setting.all.foldlM (Draft.consult env) d

/-- The settings of a command line in an environment. -/
def read (arguments : List String) (env : Environment) : Except EarlyExit Settings := do
  let given ← readCommandLine arguments
  let draft ← given.consultAll env
  return draft.finish

end Settings

end HexMonitor
