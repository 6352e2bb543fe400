import Mathlib.Data.List.Nodup
import HexMonitor.Proofs.Dumps
import HexMonitor.Proofs.Numerals

namespace HexMonitor

namespace Text

theorem length_escaped (byte : UInt8) :
    (byte ∈ shortEscapes ↔ (escaped byte).length = 2) ∧
      (IsPlain byte ↔ (escaped byte).length = 1) := by
  by_cases hs : byte ∈ shortEscapes
  · have hp : ¬ IsPlain byte := fun hp => not_mem_shortEscapes hp hs
    have hl : (escaped byte).length = 2 := by
      simp only [shortEscapes, List.mem_cons, List.not_mem_nil, or_false] at hs
      rcases hs with rfl | rfl | rfl | rfl | rfl | rfl <;> rfl
    simp [hs, hp, hl]
  by_cases hp : IsPlain byte
  · simp [hs, hp, escaped_plain hp]
  · simp [hs, hp, escaped_code hs hp]

theorem escaped_inj {byte byte' : UInt8} : escaped byte = escaped byte' ↔ byte = byte' := by
  constructor
  · intro h
    -- The length tells the kind of the escape.
    obtain ⟨hs, hp⟩ := length_escaped byte
    obtain ⟨hs', hp'⟩ := length_escaped byte'
    rw [← h] at hs' hp'
    by_cases hm : byte ∈ shortEscapes
    · have hn : (shortEscapes.map escaped).Nodup := by decide
      exact List.inj_on_of_nodup_map hn hm (hs'.2 (hs.1 hm)) h
    have hm' : byte' ∉ shortEscapes := fun h' => hm (hs.2 (hs'.1 h'))
    by_cases hq : IsPlain byte
    · rw [escaped_plain hq, escaped_plain (hp'.2 (hp.1 hq))] at h
      exact UInt8.toNat_inj.1 (congrArg Char.toNat (List.singleton_inj.1 h))
    · have hq' : ¬ IsPlain byte' := fun h' => hq (hp.2 (hp'.1 h'))
      rw [escaped_code hm hq, escaped_code hm' hq'] at h
      have hd := List.append_cancel_left (List.append_cancel_right h)
      exact UInt8.toNat_inj.1 ((toDigits_inj (by decide) (by decide)).1 hd)
  · intro h
    rw [h]

theorem quoted_inj {byte byte' : UInt8} : quoted byte = quoted byte' ↔ byte = byte' := by
  rw [quoted, quoted, String.ofList_inj, List.append_cancel_right_eq, List.cons_inj_right,
    escaped_inj]

/-- The last `n` digits of a number in base sixteen. -/
def hexPlaces : Nat → Nat → String
  | 0, _ => ""
  | n + 1, value => (hexPlaces n (value / 16)).push (Nat.digitChar (value % 16))

end Text

theorem append_cons_inj_of_not_mem {b : Char} {l l' r r' : List Char} (hr : b ∉ r)
    (hr' : b ∉ r') (h : l ++ b :: r = l' ++ b :: r') : l = l' ∧ r = r' := by
  rcases List.append_eq_append_iff.1 h with ⟨t, rfl, ht⟩ | ⟨t, rfl, ht⟩
  · cases t with
    | nil => exact ⟨(List.append_nil l).symm, (List.cons.inj ht).2⟩
    | cons c t =>
      have hm : b ∈ r := by simp [(List.cons.inj ht).2]
      exact absurd hm hr
  · cases t with
    | nil => exact ⟨List.append_nil l', (List.cons.inj ht).2.symm⟩
    | cons c t =>
      have hm : b ∈ r' := by simp [(List.cons.inj ht).2]
      exact absurd hm hr'

namespace Hex

theorem ofUInt8_digit {v : UInt8} (h : v < 16) :
    Char.ofUInt8 (digit v) = Nat.digitChar v.toNat := by
  have hd : ∀ n ∈ List.range 16, Char.ofUInt8 (digit (.ofNat n)) = Nat.digitChar n := by decide
  simpa using hd v.toNat (List.mem_range.2 h)

/-- Two digits for each byte, of the number that the bytes are together. -/
theorem render_eq_hexPlaces (bytes : Bytes) :
    render bytes = Text.hexPlaces (2 * bytes.length) (Bytes.bigEndian bytes) := by
  induction bytes using List.reverseRec with
  | nil => rfl
  | append_singleton bytes byte ih =>
    have hb := byte.toNat_lt
    have hn : Bytes.bigEndian (bytes ++ [byte]) = 256 * Bytes.bigEndian bytes + byte.toNat := by
      simp [Bytes.bigEndian]
    have hl : 2 * (bytes ++ [byte]).length = 2 * bytes.length + 1 + 1 := by
      rw [List.length_append, List.length_singleton]
      omega
    have hq : (256 * Bytes.bigEndian bytes + byte.toNat) / 16 / 16 = Bytes.bigEndian bytes := by
      omega
    have h₁ : (256 * Bytes.bigEndian bytes + byte.toNat) / 16 % 16 = byte.toNat / 16 := by omega
    have h₀ : (256 * Bytes.bigEndian bytes + byte.toNat) % 16 = byte.toNat % 16 := by omega
    rw [hn, hl, Text.hexPlaces, Text.hexPlaces, hq, h₁, h₀, ← ih, ← toNat_high, ← toNat_low,
      ← ofUInt8_digit (high_lt byte), ← ofUInt8_digit (low_lt byte), ← String.toList_inj]
    simp [render, Bytes.toCharacters]

theorem render_byte (byte : UInt8) : render [byte] = Text.hexPlaces 2 byte.toNat := by
  have hn : Bytes.bigEndian [byte] = byte.toNat := by simp [Bytes.bigEndian]
  rw [render_eq_hexPlaces, hn]
  rfl

theorem render_word (word : UInt16) :
    render (.ofUInt16 word) = Text.hexPlaces 4 word.toNat := by
  rw [render_eq_hexPlaces, Bytes.bigEndian_ofUInt16]
  rfl

theorem toList_message_badDigit (c : UInt8) (i : Nat) :
    (DecodeError.badDigit c i).message.toList =
      ("Invalid character " ++ Text.quoted c ++ " at position").toList ++
        ' ' :: Nat.toDigits 10 i := by
  have hs : " at position " = " at position" ++ " " := by decide +kernel
  have hb : " ".toList = [' '] := by decide +kernel
  show ("Invalid character " ++ Text.quoted c ++ " at position " ++ i.repr).toList = _
  rw [hs, ← String.append_assoc, String.toList_append, String.toList_append, hb, Nat.toList_repr,
    List.append_assoc]
  rfl

theorem blank_not_mem_toDigits (n : Nat) : ' ' ∉ Nat.toDigits 10 n := by
  intro h
  exact absurd (Nat.isDigit_of_mem_toDigits (by decide) (by decide) h) (by decide)

theorem message_oddLength_ne (c : UInt8) (i : Nat) :
    DecodeError.oddLength.message ≠ (DecodeError.badDigit c i).message := by
  intro h
  have ho : DecodeError.oddLength.message.toList =
      "Odd number of".toList ++ ' ' :: "digits".toList := by decide +kernel
  have hb : ' ' ∉ "digits".toList := by decide +kernel
  have ht := congrArg String.toList h
  rw [ho, toList_message_badDigit] at ht
  obtain ⟨-, hd⟩ := append_cons_inj_of_not_mem hb (blank_not_mem_toDigits i) ht
  have hm : 'd' ∈ Nat.toDigits 10 i := hd ▸ (by decide +kernel)
  exact absurd (Nat.isDigit_of_mem_toDigits (by decide) (by decide) hm) (by decide)

/-- The message tells the character and its position. -/
theorem DecodeError.message_inj {e e' : DecodeError} : e.message = e'.message ↔ e = e' := by
  constructor
  · intro h
    cases e with
    | oddLength =>
      cases e' with
      | oddLength => rfl
      | badDigit c' i' => exact absurd h (message_oddLength_ne c' i')
    | badDigit c i =>
      cases e' with
      | oddLength => exact absurd h.symm (message_oddLength_ne c i)
      | badDigit c' i' =>
        have ht := congrArg String.toList h
        rw [toList_message_badDigit, toList_message_badDigit] at ht
        obtain ⟨hq, hd⟩ :=
          append_cons_inj_of_not_mem (blank_not_mem_toDigits i) (blank_not_mem_toDigits i') ht
        have hc := (String.append_left_inj _).1 (String.toList_inj.1 hq)
        rw [Text.quoted_inj.1 ((String.append_right_inj _).1 hc),
          (Text.toDigits_inj (by decide) (by decide)).1 hd]
  · intro h
    rw [h]

end Hex

inductive Phase.Named : Phase → String → Prop
  | empty : Named .empty "empty"
  | loaded : Named .loaded "loaded"
  | executed : Named .executed "executed"

theorem Phase.named_name (phase : Phase) : phase.Named phase.name := by
  cases phase with
  | empty => exact .empty
  | loaded => exact .loaded
  | executed => exact .executed

/-- The texts of faults: addresses have four digits in base sixteen, operation codes two, and
registers are counted in base ten. -/
inductive Fault.Worded : Fault → String → Prop
  | invalidOpcode (opcode : UInt8) (pc : UInt16) :
      Worded (.invalidOpcode opcode pc)
        ("Invalid opcode 0x" ++ Text.hexPlaces 2 opcode.toNat ++ " at 0x"
          ++ Text.hexPlaces 4 pc.toNat)
  | invalidRegister (register : UInt8) (pc : UInt16) :
      Worded (.invalidRegister register pc)
        ("Invalid register r" ++ toString register.toNat ++ " at 0x" ++ Text.hexPlaces 4 pc.toNat)
  | truncated (pc : UInt16) :
      Worded (.truncated pc)
        ("Instruction at 0x" ++ Text.hexPlaces 4 pc.toNat ++ " runs past the end of memory")

theorem Fault.worded_message (fault : Fault) : fault.Worded fault.message := by
  have ha : " at 0x" = " at " ++ "0x" := by decide +kernel
  have hi : "Instruction at 0x" = "Instruction at " ++ "0x" := by decide +kernel
  cases fault with
  | invalidOpcode opcode pc =>
    have h := Worded.invalidOpcode opcode pc
    rw [ha, ← String.append_assoc, String.append_assoc, ← Hex.render_byte, ← Hex.render_word] at h
    exact h
  | invalidRegister register pc =>
    have h := Worded.invalidRegister register pc
    rw [ha, ← String.append_assoc, String.append_assoc, ← Hex.render_word] at h
    exact h
  | truncated pc =>
    have h := Worded.truncated pc
    have hp : "Instruction at 0x" ++ Text.hexPlaces 4 pc.toNat =
        "Instruction at " ++ address pc := by
      rw [hi, String.append_assoc, ← Hex.render_word]
      rfl
    rw [hp] at h
    exact h

inductive Rejection.Worded : Rejection → String → Prop
  | invalidEncoding (reason : String) :
      Worded (.invalidEncoding reason) ("Invalid hex encoding: " ++ reason)
  | programTooLarge (length capacity : Nat) :
      Worded (.programTooLarge length capacity)
        ("Program of " ++ toString length ++ " bytes exceeds machine capacity of "
          ++ toString capacity ++ " bytes")
  | bufferTooSmall (required capacity : Nat) :
      Worded (.bufferTooSmall required capacity)
        ("Dump needs " ++ toString required ++ " bytes but the buffer holds " ++ toString capacity)

theorem Rejection.worded_message (rejection : Rejection) : rejection.Worded rejection.message := by
  cases rejection with
  | invalidEncoding reason => exact .invalidEncoding reason
  | programTooLarge length capacity => exact .programTooLarge length capacity
  | bufferTooSmall required capacity => exact .bufferTooSmall required capacity

end HexMonitor
