namespace HexMonitor

abbrev Bytes := List UInt8

namespace Bytes

def ofText (text : String) : Bytes := text.toUTF8.data.toList

def toText? (bytes : Bytes) : Option String := String.fromUTF8? ⟨bytes.toArray⟩

/-- Each byte as the character of that code, so ASCII bytes become their own text. -/
def toCharacters (bytes : Bytes) : String := String.ofList (bytes.map Char.ofUInt8)

/-- Most significant byte first. -/
def ofUInt16 (word : UInt16) : Bytes := [(word >>> 8).toUInt8, word.toUInt8]

def ofUInt32 (word : UInt32) : Bytes :=
  [(word >>> 24).toUInt8, (word >>> 16).toUInt8, (word >>> 8).toUInt8, word.toUInt8]

def toUInt16 (b₁ b₀ : UInt8) : UInt16 := 256 * b₁.toUInt16 + b₀.toUInt16

def toUInt32 (b₃ b₂ b₁ b₀ : UInt8) : UInt32 :=
  16777216 * b₃.toUInt32 + 65536 * b₂.toUInt32 + 256 * b₁.toUInt32 + b₀.toUInt32

theorem toUInt16_parts (word : UInt16) :
    toUInt16 (word >>> 8).toUInt8 word.toUInt8 = word := by
  have h := word.toNat_lt
  apply UInt16.toNat_inj.1
  simp only [toUInt16, UInt16.toNat_add, UInt16.toNat_mul, UInt8.toNat_toUInt16,
    UInt16.toNat_toUInt8, UInt16.toNat_shiftRight, UInt16.reduceToNat, Nat.shiftRight_eq_div_pow,
    Nat.reduceMod, Nat.reducePow]
  omega

theorem toUInt32_parts (word : UInt32) :
    toUInt32 (word >>> 24).toUInt8 (word >>> 16).toUInt8 (word >>> 8).toUInt8 word.toUInt8
      = word := by
  have h := word.toNat_lt
  apply UInt32.toNat_inj.1
  simp only [toUInt32, UInt32.toNat_add, UInt32.toNat_mul, UInt8.toNat_toUInt32,
    UInt32.toNat_toUInt8, UInt32.toNat_shiftRight, UInt32.reduceToNat, Nat.shiftRight_eq_div_pow,
    Nat.reduceMod, Nat.reducePow]
  omega

@[simp] theorem length_ofUInt16 (word : UInt16) : (ofUInt16 word).length = 2 := rfl

@[simp] theorem length_ofUInt32 (word : UInt32) : (ofUInt32 word).length = 4 := rfl

end Bytes

end HexMonitor
