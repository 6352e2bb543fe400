import HexMonitor.Net.IPv6

namespace HexMonitor.Net

inductive SocketAddress
  | v4 (ip : IPv4) (port : UInt16)
  | v6 (ip : IPv6) (scope : UInt32) (port : UInt16)
  deriving DecidableEq, Repr

namespace SocketAddress

/-- Ports may have any number of leading zeros. -/
def portNumber : Text.Numeral := ⟨10, none, true, 65536⟩

def scopeNumber : Text.Numeral := ⟨10, none, true, 4294967296⟩

def readPort? (text : List Char) : Option UInt16 := do
  return .ofNat (← portNumber.readAll? (← Text.skip? ':' text))

/-- A percent sign and a scope; without them the scope is zero. -/
def readScope (text : List Char) : UInt32 × List Char :=
  match Text.skip? '%' text with
  | none => (0, text)
  | some start =>
    match scopeNumber.read? start with
    | none => (0, text)
    | some (value, rest) => (.ofNat value, rest)

def read? (text : List Char) : Option SocketAddress :=
  match IPv4.read? text with
  | some (ip, rest) => return .v4 ip (← readPort? rest)
  | none => do
    let (ip, rest) ← IPv6.read? (← Text.skip? '[' text)
    let (scope, rest) := readScope rest
    return .v6 ip scope (← readPort? (← Text.skip? ']' rest))

def ofText? (text : String) : Option SocketAddress := read? text.toList

def write : SocketAddress → List Char
  | v4 ip port => ip.write ++ ':' :: Nat.toDigits 10 port.toNat
  | v6 ip scope port =>
    let zone := if scope = 0 then [] else '%' :: Nat.toDigits 10 scope.toNat
    '[' :: ip.write ++ zone ++ [']', ':'] ++ Nat.toDigits 10 port.toNat

def toText (address : SocketAddress) : String := String.ofList address.write

end SocketAddress

end HexMonitor.Net
