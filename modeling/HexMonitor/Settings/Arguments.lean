import HexMonitor.Settings.Basic

namespace HexMonitor

def Settings.valueText (settings : Settings) : Setting → String
  | .listen => settings.listen.toText
  | .www => settings.www
  | .index => settings.index
  | .dumpCapacity => writeCapacity settings.dumpCapacity
  | .loadMode => settings.loadMode.name
  | .logFilter => settings.logFilter

def Settings.argument (settings : Settings) (s : Setting) : String :=
  "--" ++ s.optionName ++ "=" ++ settings.valueText s

/-- Arguments that say every setting, whatever the environment holds. -/
def Settings.arguments (settings : Settings) : List String :=
  Setting.all.map settings.argument ++ if settings.cors then ["--cors"] else []

end HexMonitor
