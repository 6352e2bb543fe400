import HexMonitor.Bytes

namespace HexMonitor.Text

def hexDigits (n : Nat) : List Char := Nat.toDigits 16 n

/-- Control characters, the no-break space and the soft hyphen leave no visible mark. -/
def isInvisible (byte : UInt8) : Bool :=
  byte < 0x20 || (0x7f ≤ byte && byte ≤ 0xa0) || byte == 0xad

def escaped (byte : UInt8) : List Char :=
  if byte = 0x00 then ['\\', '0']
  else if byte = 0x09 then ['\\', 't']
  else if byte = 0x0a then ['\\', 'n']
  else if byte = 0x0d then ['\\', 'r']
  else if byte = 0x27 then ['\\', '\'']
  else if byte = 0x5c then ['\\', '\\']
  else if isInvisible byte then ['\\', 'u', '\x7b'] ++ hexDigits byte.toNat ++ ['\x7d']
  else [Char.ofUInt8 byte]

def quoted (byte : UInt8) : String :=
  String.ofList ('\'' :: escaped byte ++ ['\''])

def shortEscapes : List UInt8 := [0x00, 0x09, 0x0a, 0x0d, 0x27, 0x5c]

/-- The characters that are shown as they are. -/
def IsPlain (byte : UInt8) : Prop :=
  (0x20 ≤ byte ∧ byte < 0x7f ∧ byte ≠ 0x27 ∧ byte ≠ 0x5c) ∨ (0xa0 < byte ∧ byte ≠ 0xad)

instance : DecidablePred IsPlain := fun _ => inferInstanceAs (Decidable (_ ∨ _))

/-- `Quotes byte text`: between single quotes, `text` shows the character of code `byte`. -/
inductive Quotes : UInt8 → String → Prop
  | null : Quotes 0x00 "'\\0'"
  | tab : Quotes 0x09 "'\\t'"
  | newline : Quotes 0x0a "'\\n'"
  | carriageReturn : Quotes 0x0d "'\\r'"
  | quote : Quotes 0x27 "'\\''"
  | backslash : Quotes 0x5c "'\\\\'"
  | code {byte : UInt8} (hs : byte ∉ shortEscapes) (hp : ¬ IsPlain byte) :
      Quotes byte (String.ofList
        (['\'', '\\', 'u', '\x7b'] ++ Nat.toDigits 16 byte.toNat ++ ['\x7d', '\'']))
  | plain {byte : UInt8} {c : Char} (hp : IsPlain byte) (hc : c.toNat = byte.toNat) :
      Quotes byte (String.ofList ['\'', c, '\''])

theorem isInvisible_eq_false {byte : UInt8} (hp : IsPlain byte) : isInvisible byte = false := by
  simp only [IsPlain, ne_eq, ← UInt8.toNat_inj, UInt8.lt_iff_toNat_lt, UInt8.le_iff_toNat_le,
    UInt8.reduceToNat] at hp
  simp only [isInvisible, Bool.or_eq_false_iff, Bool.and_eq_false_iff, decide_eq_false_iff_not,
    beq_eq_false_iff_ne, ne_eq, ← UInt8.toNat_inj, UInt8.lt_iff_toNat_lt, UInt8.le_iff_toNat_le,
    UInt8.reduceToNat]
  omega

theorem isInvisible_eq_true {byte : UInt8} (hs : byte ∉ shortEscapes) (hp : ¬ IsPlain byte) :
    isInvisible byte = true := by
  simp only [shortEscapes, List.mem_cons, List.not_mem_nil, or_false, ← UInt8.toNat_inj,
    UInt8.reduceToNat] at hs
  simp only [IsPlain, ne_eq, ← UInt8.toNat_inj, UInt8.lt_iff_toNat_lt, UInt8.le_iff_toNat_le,
    UInt8.reduceToNat] at hp
  simp only [isInvisible, Bool.or_eq_true, Bool.and_eq_true, decide_eq_true_eq, beq_iff_eq,
    ← UInt8.toNat_inj, UInt8.lt_iff_toNat_lt, UInt8.le_iff_toNat_le, UInt8.reduceToNat]
  omega

theorem not_mem_shortEscapes {byte : UInt8} (hp : IsPlain byte) : byte ∉ shortEscapes := by
  simp only [IsPlain, ne_eq, ← UInt8.toNat_inj, UInt8.lt_iff_toNat_lt, UInt8.le_iff_toNat_le,
    UInt8.reduceToNat] at hp
  simp only [shortEscapes, List.mem_cons, List.not_mem_nil, or_false, ← UInt8.toNat_inj,
    UInt8.reduceToNat]
  omega

theorem escaped_eq_ite {byte : UInt8} (hs : byte ∉ shortEscapes) :
    escaped byte =
      if isInvisible byte then ['\\', 'u', '\x7b'] ++ Nat.toDigits 16 byte.toNat ++ ['\x7d']
      else [Char.ofUInt8 byte] := by
  simp only [shortEscapes, List.mem_cons, List.not_mem_nil, or_false, not_or] at hs
  obtain ⟨h₁, h₂, h₃, h₄, h₅, h₆⟩ := hs
  rw [escaped, if_neg h₁, if_neg h₂, if_neg h₃, if_neg h₄, if_neg h₅, if_neg h₆]
  rfl

theorem escaped_code {byte : UInt8} (hs : byte ∉ shortEscapes) (hp : ¬ IsPlain byte) :
    escaped byte = ['\\', 'u', '\x7b'] ++ Nat.toDigits 16 byte.toNat ++ ['\x7d'] := by
  rw [escaped_eq_ite hs, if_pos (isInvisible_eq_true hs hp)]

theorem escaped_plain {byte : UInt8} (hp : IsPlain byte) : escaped byte = [Char.ofUInt8 byte] := by
  rw [escaped_eq_ite (not_mem_shortEscapes hp), isInvisible_eq_false hp]
  rfl

theorem quotes_quoted (byte : UInt8) : Quotes byte (quoted byte) := by
  by_cases hs : byte ∈ shortEscapes
  · simp only [shortEscapes, List.mem_cons, List.not_mem_nil, or_false] at hs
    rcases hs with rfl | rfl | rfl | rfl | rfl | rfl
    · exact .null
    · exact .tab
    · exact .newline
    · exact .carriageReturn
    · exact .quote
    · exact .backslash
  by_cases hp : IsPlain byte
  · rw [quoted, escaped_plain hp]
    exact .plain hp rfl
  · have h := Quotes.code hs hp
    rw [quoted, escaped_code hs hp]
    simpa using h

theorem Quotes.eq_quoted {byte : UInt8} {text : String} (h : Quotes byte text) :
    text = quoted byte := by
  cases h with
  | null | tab | newline | carriageReturn | quote | backslash => rfl
  | code hs hp => simp [quoted, escaped_code hs hp]
  | @plain _ c hp hc =>
    have he : c = Char.ofUInt8 byte := Char.toNat_inj.1 hc
    rw [quoted, escaped_plain hp, he]
    rfl

end HexMonitor.Text
