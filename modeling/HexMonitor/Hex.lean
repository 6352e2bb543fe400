import HexMonitor.Bytes
import HexMonitor.Text.Quoted

namespace HexMonitor.Hex

def digitValue? (character : UInt8) : Option UInt8 :=
  if 0x30 ≤ character ∧ character ≤ 0x39 then some (character - 0x30)
  else if 0x41 ≤ character ∧ character ≤ 0x46 then some (character - 0x37)
  else if 0x61 ≤ character ∧ character ≤ 0x66 then some (character - 0x57)
  else none

/-- The lowercase digit of a value below sixteen. -/
def digit (value : UInt8) : UInt8 := if value < 10 then 0x30 + value else 0x57 + value

def digits (byte : UInt8) : Bytes := [digit (byte >>> 4), digit (byte &&& 0x0f)]

def encode (bytes : Bytes) : Bytes := bytes.flatMap digits

def encodedLength (bytes : Bytes) : Nat := bytes.length * 2

inductive DecodeError
  | oddLength
  | badDigit (character : UInt8) (position : Nat)
  deriving DecidableEq, Repr

def DecodeError.message : DecodeError → String
  | .oddLength => "Odd number of digits"
  | .badDigit character position =>
    "Invalid character " ++ Text.quoted character ++ " at position " ++ toString position

/-- Reads the digit pairs left to right and stops at the first bad digit. The text begins at
`position`, and `done` holds the bytes read before it, last first. -/
def decodePairs (position : Nat) (done : Bytes) : Bytes → Except DecodeError Bytes
  | high :: low :: rest =>
    match digitValue? high with
    | none => .error (.badDigit high position)
    | some h =>
      match digitValue? low with
      | none => .error (.badDigit low (position + 1))
      | some l => decodePairs (position + 2) ((16 * h + l) :: done) rest
  | _ => .ok done.reverse

/-- The bytes that a text of digit pairs denotes. The length is judged before any character. -/
def decode (text : Bytes) : Except DecodeError Bytes :=
  if text.length % 2 = 1 then .error .oddLength else decodePairs 0 [] text

def render (bytes : Bytes) : String := (encode bytes).toCharacters

@[simp] theorem encode_nil : encode [] = [] := rfl

@[simp] theorem encode_cons (byte : UInt8) (bytes : Bytes) :
    encode (byte :: bytes) = digit (byte >>> 4) :: digit (byte &&& 0x0f) :: encode bytes := rfl

@[simp] theorem encode_append (bytes bytes' : Bytes) :
    encode (bytes ++ bytes') = encode bytes ++ encode bytes' := by
  simp [encode]

@[simp] theorem length_encode (bytes : Bytes) : (encode bytes).length = encodedLength bytes := by
  induction bytes with
  | nil => rfl
  | cons byte bytes ih => simp_all [encodedLength]; omega

end HexMonitor.Hex
