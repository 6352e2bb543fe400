import HexMonitor.Http.Site
import HexMonitor.Http.Wire
import HexMonitor.Settings.Environment

namespace HexMonitor.Main

open Http

def environment : IO Environment := do
  let set ← Setting.all.filterMapM fun s => do
    return (← IO.getEnv s.environmentName).map (s.environmentName, ·)
  return fun name => set.lookup name

/-- Reads header lines up to the empty one; what is no header is passed over. -/
partial def readHeaders (input : IO.FS.Stream) (headers : List (String × String)) :
    IO (List (String × String)) := do
  let line := chomp (← input.getLine)
  if line.isEmpty then return headers.reverse
  readHeaders input ((headerLine? line).toList ++ headers)

partial def readBody (input : IO.FS.Stream) (length : Nat) (body : Bytes) : IO Bytes := do
  if length = 0 then return body
  let chunk ← input.read length.toUSize
  if chunk.isEmpty then return body
  readBody input (length - chunk.size) (body ++ chunk.data.toList)

/-- Answers requests one after another until the input ends or is no request. Whoever starts the
program accepts the connections. -/
partial def serve (input output : IO.FS.Stream) (site : Site) : IO Unit := do
  let some (method, target) := requestLine? (chomp (← input.getLine)) | return
  let head : Request := { method, target := .ofText target, headers := ← readHeaders input [] }
  let body ← readBody input (head.announcedLength?.getD 0) []
  let some (response, site) := site.respond { head with body } | return
  output.write ⟨response.wire.toArray⟩
  output.flush
  serve input output site

end HexMonitor.Main

def main (arguments : List String) : IO UInt32 := do
  match HexMonitor.Settings.read arguments (← HexMonitor.Main.environment) with
  | .ok settings =>
    HexMonitor.Main.serve (← IO.getStdin) (← IO.getStdout) (.ofSettings settings { root := settings.www })
    return 0
  | .error .version =>
    IO.print HexMonitor.EarlyExit.version.message
    return 0
  | .error .help => return 0
  | .error _ => return 2
