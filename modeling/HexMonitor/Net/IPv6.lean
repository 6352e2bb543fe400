import HexMonitor.Net.IPv4

/-!
IPv6 addresses: eight groups of sixteen bits. In text, one run of zero groups may be left out
between two colons, and the last two groups may stand in dotted decimal. The written form leaves
out the first of the longest runs of two or more zero groups, and uses dotted decimal exactly for
the addresses that stand for an IPv4 address.
-/

namespace HexMonitor.Net

structure IPv6 where
  groups : Vector UInt16 8
  deriving DecidableEq, Repr

namespace IPv6

/-- The address with these groups; groups past the end of the list are zero. -/
def ofGroups (groups : List UInt16) : IPv6 := ⟨Vector.ofFn fun i => groups.getD i 0⟩

def group : Text.Numeral := ⟨16, some 4, true, 65536⟩

structure Front where
  groups : List UInt16
  /-- Whether the last two groups were written in dotted decimal. -/
  dotted : Bool
  rest : List Char
  deriving DecidableEq, Repr

def ofIPv4 (ip : IPv4) : List UInt16 :=
  [ip.a.toUInt16 <<< 8 ||| ip.b.toUInt16, ip.c.toUInt16 <<< 8 ||| ip.d.toUInt16]

def skipSeparator? (first : Bool) (text : List Char) : Option (List Char) :=
  if first then some text else Text.skip? ':' text

/-- Reads at most `limit` groups with colons between them, as far as the text goes on that way. An
address in dotted decimal, where there is room for its two groups, ends them. -/
def readGroups : (limit : Nat) → (first : Bool) → List Char → Front
  | 0, _, text => ⟨[], false, text⟩
  | limit + 1, first, text =>
    match skipSeparator? first text with
    | none => ⟨[], false, text⟩
    | some start =>
      -- In the last group there is no room for both groups of a dotted address.
      match if limit = 0 then none else IPv4.read? start with
      | some (ip, rest) => ⟨ofIPv4 ip, true, rest⟩
      | none =>
        match group.read? start with
        | none => ⟨[], false, text⟩
        | some (value, rest) =>
          let front := readGroups limit false rest
          { front with groups := .ofNat value :: front.groups }

/-- Eight groups, or fewer around a double colon that stands for at least one group; what follows
is left. Dotted decimal does not stand before a double colon. -/
def read? (text : List Char) : Option (IPv6 × List Char) :=
  let front := readGroups 8 true text
  if front.groups.length = 8 then some (ofGroups front.groups, front.rest)
  else if front.dotted then none
  else do
    let start ← Text.skip? ':' (← Text.skip? ':' front.rest)
    -- One group of the eight is kept for the double colon.
    let back := readGroups (7 - front.groups.length) true start
    let zeros := List.replicate (8 - front.groups.length - back.groups.length) 0
    return (ofGroups (front.groups ++ zeros ++ back.groups), back.rest)

/-- The IPv4 address that an address of the form `::ffff:a.b.c.d` stands for. -/
def mapped? (ip : IPv6) : Option IPv4 :=
  match ip.groups.toList with
  | [0, 0, 0, 0, 0, 0xffff, g, h] =>
    some ⟨(g >>> 8).toUInt8, g.toUInt8, (h >>> 8).toUInt8, h.toUInt8⟩
  | _ => none

def zeroRun (groups : List UInt16) : Nat := (groups.takeWhile (· == 0)).length

/-- Where the first of the longest runs of zero groups begins. -/
def longestZeroRun (groups : List UInt16) : Nat :=
  -- A later run has to be longer, so the first of equals stays.
  (List.range groups.length).foldl
    (fun best i => if zeroRun (groups.drop best) < zeroRun (groups.drop i) then i else best) 0

def writeGroups : List UInt16 → List Char
  | [] => []
  | [g] => Nat.toDigits 16 g.toNat
  | g :: gs => Nat.toDigits 16 g.toNat ++ ':' :: writeGroups gs

def write (ip : IPv6) : List Char :=
  match ip.mapped? with
  | some v4 => [':', ':', 'f', 'f', 'f', 'f', ':'] ++ v4.write
  | none =>
    let groups := ip.groups.toList
    let start := longestZeroRun groups
    let length := zeroRun (groups.drop start)
    if length > 1 then
      writeGroups (groups.take start) ++ [':', ':'] ++ writeGroups (groups.drop (start + length))
    else writeGroups groups

end IPv6

end HexMonitor.Net
