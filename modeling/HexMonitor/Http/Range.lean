import HexMonitor.Bytes
import HexMonitor.Text.Numeral
import HexMonitor.Text.Split

namespace HexMonitor.Http

inductive RangeSpec
  | between (first last : Nat)
  /-- All from one byte on. -/
  | onward (first : Nat)
  /-- So many bytes at the end. -/
  | final (count : Nat)
  deriving DecidableEq, Repr

structure Part where
  first : Nat
  last : Nat
  deriving DecidableEq, Repr

namespace Part

def IsApart (p q : Part) : Prop := p.last < q.first ∨ q.last < p.first

instance (p q : Part) : Decidable (p.IsApart q) := inferInstanceAs (Decidable (_ ∨ _))

def of (p : Part) (content : Bytes) : Bytes := (content.drop p.first).take (p.last + 1 - p.first)

end Part

namespace RangeSpec

/-- Places in a page are written without needless zeros and fit 64 bits. -/
def place : Text.Numeral := ⟨10, none, false, 18446744073709551616⟩

def read? (text : List Char) : Option RangeSpec :=
  match Text.splitAt '-' text with
  | [[], count] =>
    match place.readAll? count with
    | some (n + 1) => some (final (n + 1))
    | _ => none
  | [first, []] => (place.readAll? first).map onward
  | [first, last] => do return between (← place.readAll? first) (← place.readAll? last)
  | _ => none

def skipBlank : List Char → List Char
  | c :: rest => if Text.isBlank c then rest else c :: rest
  | [] => []

/-- Reads the value of a header: the unit, and parts with commas between them, each of which may have
one blank behind it. -/
def readAll? (header : String) : Option (List RangeSpec) :=
  let unit := "bytes=".toList
  if unit.isPrefixOf header.toList then
    match Text.splitAt ',' (header.toList.drop unit.length) with
    | [] => none
    -- The first part stands behind the unit and not behind a comma.
    | text :: texts => (text :: texts.map skipBlank).mapM read?
  else none

/-- The part of a page of some size; what is behind the end is cut off. The first place may lie
behind the last one, and then there is no such part. -/
def part? (size : Nat) : RangeSpec → Option Part
  | between first last => some ⟨first, min last (size - 1)⟩
  | onward first => some ⟨first, size - 1⟩
  | final count => if count ≤ size then some ⟨size - count, size - 1⟩ else none

end RangeSpec

/-- The parts that a header asks for, unless it asks for a part that is not there or for the same
place twice. An empty page counts as a page of one byte. -/
def parts? (header : String) (size : Nat) : Option (List Part) := do
  let parts ← (← RangeSpec.readAll? header).mapM (RangeSpec.part? size)
  if (∀ p ∈ parts, p.first ≤ p.last) ∧ parts.Pairwise Part.IsApart then some parts else none

end HexMonitor.Http
