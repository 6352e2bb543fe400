import HexMonitor.Text.Numeral

namespace HexMonitor.Net

structure IPv4 where
  a : UInt8
  b : UInt8
  c : UInt8
  d : UInt8
  deriving DecidableEq, Repr

namespace IPv4

/-- A number of at most three digits without a leading zero, below 256. -/
def octet : Text.Numeral := ⟨10, some 3, false, 256⟩

def readOctet? (text : List Char) : Option (UInt8 × List Char) :=
  (octet.read? text).map fun (value, rest) => (.ofNat value, rest)

def read? (text : List Char) : Option (IPv4 × List Char) := do
  let (a, text) ← readOctet? text
  let (b, text) ← readOctet? (← Text.skip? '.' text)
  let (c, text) ← readOctet? (← Text.skip? '.' text)
  let (d, text) ← readOctet? (← Text.skip? '.' text)
  return (⟨a, b, c, d⟩, text)

def writeOctet (octet : UInt8) : List Char := Nat.toDigits 10 octet.toNat

def write (ip : IPv4) : List Char :=
  writeOctet ip.a ++ '.' :: writeOctet ip.b ++ '.' :: writeOctet ip.c ++ '.' :: writeOctet ip.d

end IPv4

end HexMonitor.Net
