import HexMonitor.Monitor
import HexMonitor.Net.SocketAddress

namespace HexMonitor

structure Settings where
  /-- Where requests are accepted. -/
  listen : Net.SocketAddress := .v4 ⟨0, 0, 0, 0⟩ 8080
  /-- The directory of the static pages. -/
  www : String := "www"
  /-- The landing page that `/` leads to. -/
  index : String := "/index.html"
  /-- The most characters of a dump. -/
  dumpCapacity : UInt64 := 2000
  loadMode : LoadMode := .fused
  /-- Whether pages of other origins may read the answers. -/
  cors : Bool := false
  logFilter : String := "info"
  deriving DecidableEq, Repr

inductive Setting
  | listen | www | index | dumpCapacity | loadMode | logFilter
  deriving DecidableEq, Repr

namespace Setting

/-- The order in which the environment is consulted. -/
def all : List Setting := [listen, www, index, dumpCapacity, loadMode, logFilter]

def optionName : Setting → String
  | listen => "listen"
  | www => "www"
  | index => "index"
  | dumpCapacity => "dump-capacity"
  | loadMode => "load-mode"
  | logFilter => "log-filter"

def environmentName : Setting → String
  | listen => "HEXVMD_LISTEN"
  | www => "HEXVMD_WWW"
  | index => "HEXVMD_INDEX"
  | dumpCapacity => "HEXVMD_DUMP_CAPACITY"
  | loadMode => "HEXVMD_LOAD_MODE"
  | logFilter => "HEXVMD_LOG"

end Setting

/-- Why a command line does not lead to settings: it asks for help or for the version, or it is
not well formed. -/
inductive EarlyExit
  | help
  | version
  | unknownArgument (text : String)
  | missingValue (option : String)
  | unexpectedValue (option text : String)
  | repeated (option : String)
  | emptyPath
  | unknownMode (text : String)
  | malformedAddress (text : String)
  | malformedCapacity (text : String)
  deriving DecidableEq, Repr

/-- The text of an early exit. Help and complaints are told apart by their kind, and their wording is
left out. -/
def EarlyExit.message : EarlyExit → String
  | version => "hexvm-httpd 0.1.0\n"
  | _ => ""

namespace Settings

def capacityNumber : Text.Numeral := ⟨10, none, true, 18446744073709551616⟩

/-- A decimal numeral, with or without a plus sign in front. -/
def readCapacity? (text : String) : Option UInt64 :=
  let digits := match text.toList with
    | '+' :: rest => rest
    | text => text
  (capacityNumber.readAll? digits).map .ofNat

def writeCapacity (capacity : UInt64) : String := String.ofList (Nat.toDigits 10 capacity.toNat)

structure Draft where
  listen? : Option Net.SocketAddress := none
  www? : Option String := none
  index? : Option String := none
  dumpCapacity? : Option UInt64 := none
  loadMode? : Option LoadMode := none
  logFilter? : Option String := none
  cors : Bool := false
  deriving DecidableEq, Repr

namespace Draft

def has (d : Draft) : Setting → Bool
  | .listen => d.listen?.isSome
  | .www => d.www?.isSome
  | .index => d.index?.isSome
  | .dumpCapacity => d.dumpCapacity?.isSome
  | .loadMode => d.loadMode?.isSome
  | .logFilter => d.logFilter?.isSome

/-- Gives a setting the value that a text denotes. Any text is a landing page or a log filter; a
directory is any text but the empty one. -/
def put (d : Draft) (s : Setting) (text : String) : Except EarlyExit Draft :=
  match s with
  | .listen =>
    match Net.SocketAddress.ofText? text with
    | none => .error (.malformedAddress text)
    | some address => .ok { d with listen? := some address }
  | .www => if text = "" then .error .emptyPath else .ok { d with www? := some text }
  | .index => .ok { d with index? := some text }
  | .dumpCapacity =>
    match readCapacity? text with
    | none => .error (.malformedCapacity text)
    | some capacity => .ok { d with dumpCapacity? := some capacity }
  | .loadMode =>
    match LoadMode.ofName? text with
    | none => .error (.unknownMode text)
    | some mode => .ok { d with loadMode? := some mode }
  | .logFilter => .ok { d with logFilter? := some text }

def finish (d : Draft) : Settings :=
  let default : Settings := {}
  { listen := d.listen?.getD default.listen
    www := d.www?.getD default.www
    index := d.index?.getD default.index
    dumpCapacity := d.dumpCapacity?.getD default.dumpCapacity
    loadMode := d.loadMode?.getD default.loadMode
    cors := d.cors
    logFilter := d.logFilter?.getD default.logFilter }

end Draft

end Settings

end HexMonitor
