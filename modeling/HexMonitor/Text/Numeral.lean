namespace HexMonitor.Text

/-- The value of an ASCII digit; the letters of either case go on from ten. -/
def digitValue? (c : Char) : Option Nat :=
  if '0' ≤ c ∧ c ≤ '9' then some (c.toNat - '0'.toNat)
  else if 'a' ≤ c ∧ c ≤ 'f' then some (c.toNat - 'a'.toNat + 10)
  else if 'A' ≤ c ∧ c ≤ 'F' then some (c.toNat - 'A'.toNat + 10)
  else none

def isDigitIn (base : Nat) (c : Char) : Bool := (digitValue? c).any (· < base)

def valueOf (base : Nat) (digits : List Char) : Nat :=
  digits.foldl (fun value c => base * value + (digitValue? c).getD 0) 0

/-- Which numerals are read: the base, the most digits if there is such a limit, whether zeros may
stand before other digits, and the bound below which the value lies. -/
structure Numeral where
  base : Nat
  maxDigits? : Option Nat
  leadingZeros : Bool
  bound : Nat
  deriving DecidableEq, Repr

namespace Numeral

def allows (rule : Numeral) (digits : List Char) : Bool :=
  !digits.isEmpty
    && rule.maxDigits?.all (digits.length ≤ ·)
    && (rule.leadingZeros || digits.length == 1 || digits.head? != some '0')
    && valueOf rule.base digits < rule.bound

/-- Takes all the digits at the front of a text; the value and what follows, if the rule allows
these digits. -/
def read? (rule : Numeral) (text : List Char) : Option (Nat × List Char) :=
  let digits := text.takeWhile (isDigitIn rule.base)
  if rule.allows digits then
    some (valueOf rule.base digits, text.dropWhile (isDigitIn rule.base))
  else none

def readAll? (rule : Numeral) (text : List Char) : Option Nat :=
  match rule.read? text with
  | some (value, []) => some value
  | _ => none

end Numeral

def skip? (c : Char) : List Char → Option (List Char)
  | [] => none
  | c' :: rest => if c' = c then some rest else none

@[simp] theorem skip?_cons (c : Char) (rest : List Char) : skip? c (c :: rest) = some rest := by
  simp [skip?]

end HexMonitor.Text
