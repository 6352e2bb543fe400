import HexMonitor.Hex.Bounded

namespace HexMonitor.Hex

/-- `Denotes c n`: the character `c` is a digit of value `n`. -/
inductive Denotes : UInt8 → Nat → Prop
  | figure (n : Nat) (h : n < 10) : Denotes (.ofNat (0x30 + n)) n
  | lower (n : Nat) (h : n < 6) : Denotes (.ofNat (0x61 + n)) (10 + n)
  | upper (n : Nat) (h : n < 6) : Denotes (.ofNat (0x41 + n)) (10 + n)

/-- `Spells text bytes`: the digits of `text`, two a byte, denote `bytes`. -/
inductive Spells : Bytes → Bytes → Prop
  | nil : Spells [] []
  | cons {high low byte : UInt8} {text bytes : Bytes} (hh : Denotes high (byte.toNat / 16))
      (hl : Denotes low (byte.toNat % 16)) (rest : Spells text bytes) :
      Spells (high :: low :: text) (byte :: bytes)

theorem Denotes.digitValue?_eq {c : UInt8} {n : Nat} (h : Denotes c n) :
    digitValue? c = some (.ofNat n) := by
  cases h with
  | figure n h => revert n; decide
  | lower n h => revert n; decide
  | upper n h => revert n; decide

theorem denotes_digit {v : UInt8} (h : v < 16) : Denotes (digit v) v.toNat := by
  have hv : v.toNat < 16 := h
  unfold digit
  split
  · rename_i hd
    have hd' : v.toNat < 10 := hd
    have hf := Denotes.figure v.toNat hd'
    rwa [UInt8.ofNat_add, UInt8.ofNat_toNat] at hf
  · rename_i hd
    have hd' : ¬ v.toNat < 10 := hd
    have hl := Denotes.lower (v.toNat - 10) (by omega)
    have hn : 10 + (v.toNat - 10) = v.toNat := by omega
    have hc : 0x61 + (v.toNat - 10) = 0x57 + v.toNat := by omega
    rwa [hn, hc, UInt8.ofNat_add, UInt8.ofNat_toNat] at hl

theorem toNat_high (byte : UInt8) : (byte >>> 4).toNat = byte.toNat / 16 := by
  simp only [UInt8.toNat_shiftRight, UInt8.reduceToNat, Nat.shiftRight_eq_div_pow,
    Nat.reduceMod, Nat.reducePow]

theorem toNat_low (byte : UInt8) : (byte &&& 0x0f).toNat = byte.toNat % 16 :=
  Nat.and_two_pow_sub_one_eq_mod byte.toNat 4

theorem high_lt (byte : UInt8) : byte >>> 4 < 16 := by
  have hb := byte.toNat_lt
  have hn := toNat_high byte
  have hc : (16 : UInt8).toNat = 16 := rfl
  rw [UInt8.lt_iff_toNat_lt]
  omega

theorem low_lt (byte : UInt8) : byte &&& 0x0f < 16 := by
  have hn := toNat_low byte
  have hc : (16 : UInt8).toNat = 16 := rfl
  rw [UInt8.lt_iff_toNat_lt]
  omega

theorem ofNat_halves (byte : UInt8) :
    16 * UInt8.ofNat (byte.toNat / 16) + UInt8.ofNat (byte.toNat % 16) = byte := by
  have hb : 16 * (byte.toNat / 16) + byte.toNat % 16 = byte.toNat := Nat.div_add_mod _ 16
  have ho : UInt8.ofNat (16 * (byte.toNat / 16) + byte.toNat % 16) = byte := by
    rw [hb, UInt8.ofNat_toNat]
  rwa [UInt8.ofNat_add, UInt8.ofNat_mul] at ho

/-- What writing produces spells the bytes. -/
theorem spells_encode (bytes : Bytes) : Spells (encode bytes) bytes := by
  induction bytes with
  | nil => exact .nil
  | cons byte bytes ih =>
    have hh := denotes_digit (high_lt byte)
    have hl := denotes_digit (low_lt byte)
    rw [toNat_high] at hh
    rw [toNat_low] at hl
    exact .cons hh hl ih

theorem Spells.length_eq {text bytes : Bytes} (h : Spells text bytes) :
    text.length = 2 * bytes.length := by
  induction h with
  | nil => rfl
  | cons _ _ _ ih =>
    simp only [List.length_cons, ih]
    omega

theorem decodePairs_of_spells {text bytes : Bytes} (h : Spells text bytes) (position : Nat)
    (done : Bytes) : decodePairs position done text = .ok (done.reverse ++ bytes) := by
  induction h generalizing position done with
  | nil => simp [decodePairs]
  | cons hh hl _ ih =>
    simp [decodePairs, hh.digitValue?_eq, hl.digitValue?_eq, ofNat_halves, ih]

/-- Every spelling of some bytes is read as these bytes. -/
theorem decode_of_spells {text bytes : Bytes} (h : Spells text bytes) :
    decode text = .ok bytes := by
  have hl := h.length_eq
  have ho : ¬ text.length % 2 = 1 := by omega
  rw [decode, if_neg ho, decodePairs_of_spells h, List.reverse_nil, List.nil_append]

theorem read_of_spells {text bytes : Bytes} (h : Spells text bytes) : read text = .ok bytes := by
  rw [read, decode_of_spells h]
  rfl

theorem encode_inj {bytes bytes' : Bytes} : encode bytes = encode bytes' ↔ bytes = bytes' := by
  constructor
  · intro h
    have hd := decode_of_spells (spells_encode bytes)
    rw [h, decode_of_spells (spells_encode bytes')] at hd
    exact (Except.ok.inj hd).symm
  · intro h
    rw [h]

/-- Writing in place replaces the front of a buffer by the text, and keeps the remainder. -/
theorem overwrite_eq (done bytes buffer : Bytes) (h : 2 * bytes.length ≤ buffer.length) :
    overwrite done bytes buffer =
      done.reverse ++ encode bytes ++ buffer.drop (2 * bytes.length) := by
  induction bytes generalizing done buffer with
  | nil => simp [overwrite]
  | cons byte bytes ih =>
    match buffer with
    | [] => simp at h
    | [_] =>
      simp only [List.length_cons, List.length_nil] at h
      omega
    | c :: c' :: rest =>
      have hr : 2 * bytes.length ≤ rest.length := by
        simp only [List.length_cons] at h
        omega
      have hn : 2 * (byte :: bytes).length = 2 * bytes.length + 2 := by
        rw [List.length_cons]
        omega
      rw [overwrite, ih _ rest hr, hn]
      simp

theorem fill?_eq {bytes place : Bytes} (h : place.length = encodedLength bytes) :
    fill? bytes place = some (encode bytes) := by
  have hl : place.length = 2 * bytes.length := h.trans (Nat.mul_comm _ _)
  have hd : place.drop (2 * bytes.length) = [] := List.drop_eq_nil_of_le (Nat.le_of_eq hl)
  rw [fill?, if_pos h, overwrite_eq _ _ _ (Nat.le_of_eq hl.symm), hd, List.append_nil]
  rfl

/-- Where the buffer is long enough for the text, the place in it has the length of the text. -/
theorem encodeIntoBy_eq {fill? : Bytes → Bytes → Option Bytes} {bytes buffer text : Bytes}
    (h : encodedLength bytes ≤ buffer.length)
    (hf : fill? bytes (buffer.take (encodedLength bytes)) = some text) :
    encodeIntoBy fill? bytes buffer =
      (.ok (encodedLength bytes), text ++ buffer.drop (encodedLength bytes)) := by
  simp only [encodeIntoBy, if_neg (Nat.not_lt.2 h), hf]

theorem encodeInto_eq {bytes buffer : Bytes} (h : encodedLength bytes ≤ buffer.length) :
    encodeInto bytes buffer =
      (.ok (encodedLength bytes), encode bytes ++ buffer.drop (encodedLength bytes)) :=
  encodeIntoBy_eq h (fill?_eq (List.length_take_of_le h))

end HexMonitor.Hex
