import HexMonitor.Proofs.Wording

namespace HexMonitor.Hex

def lowercase (c : UInt8) : UInt8 := if 0x41 ≤ c ∧ c ≤ 0x5a then c + 0x20 else c

theorem Denotes.lowercase_eq {c : UInt8} {n : Nat} (h : Denotes c n) :
    lowercase c = digit (.ofNat n) := by
  cases h with
  | figure n h => revert n; decide
  | lower n h => revert n; decide
  | upper n h => revert n; decide

/-- A spelling in small letters is the text that is written. -/
theorem Spells.map_lowercase {text bytes : Bytes} (h : Spells text bytes) :
    text.map lowercase = encode bytes := by
  induction h with
  | nil => rfl
  | @cons high low byte text bytes hh hl _ ih =>
    rw [List.map_cons, List.map_cons, hh.lowercase_eq, hl.lowercase_eq, ih, encode_cons,
      ← toNat_high, ← toNat_low, UInt8.ofNat_toNat, UInt8.ofNat_toNat]

/-- Each byte is spelled by the two characters at its place. -/
theorem Spells.digits_at {text bytes : Bytes} (h : Spells text bytes) {i : Nat} {byte : UInt8}
    (hi : bytes[i]? = some byte) :
    ∃ high low a b, text[2 * i]? = some high ∧ text[2 * i + 1]? = some low ∧ Denotes high a ∧
      Denotes low b ∧ byte.toNat = 16 * a + b := by
  induction h generalizing i with
  | nil => cases hi
  | @cons high low byte' text bytes hh hl _ ih =>
    cases i with
    | zero =>
      cases hi
      exact ⟨high, low, _, _, rfl, rfl, hh, hl, (Nat.div_add_mod byte.toNat 16).symm⟩
    | succ i => exact ih hi

theorem read_eq_ok_iff (text bytes : Bytes) : read text = .ok bytes ↔ Spells text bytes := by
  constructor
  · intro h
    rcases spells_or_complains text with ⟨bytes', hs⟩ | ⟨r, hr⟩
    · cases h.symm.trans (read_of_spells hs)
      exact hs
    · cases h.symm.trans hr.read_eq
  · intro h
    exact read_of_spells h

theorem read_eq_error_iff (text : Bytes) (r : Rejection) :
    read text = .error r ↔ Complains text r := by
  constructor
  · intro h
    rcases spells_or_complains text with ⟨bytes, hs⟩ | ⟨r', hr⟩
    · cases h.symm.trans (read_of_spells hs)
    · cases h.symm.trans hr.read_eq
      exact hr
  · intro h
    exact h.read_eq

theorem encodeWithin_eq {bytes : Bytes} {capacity : Nat} (h : 2 * bytes.length ≤ capacity) :
    encodeWithin bytes capacity = .ok (encode bytes) := by
  have hl : encodedLength bytes = 2 * bytes.length := Nat.mul_comm _ _
  rw [encodeWithin, if_neg (by omega)]

/-- Texts of digits in even number are read, and no others. Each byte read has the two digits at its
place, and together they are written as the text in small letters; a text that is turned down is so
for its odd length, or else for the first character that is no digit, and the reason tells that
character and its place from every other. What is written of any bytes is digits in small letters,
two a byte, and is read as these bytes. -/
theorem read_encodeWithin_inverse :
    (∀ text : Bytes,
      ((∃ bytes, read text = .ok bytes) ↔ text.length % 2 = 0 ∧ ∀ c ∈ text, IsDigit c) ∧
      (∀ bytes, read text = .ok bytes →
        bytes.length = text.length / 2 ∧
        (∀ i byte, bytes[i]? = some byte → ∃ high low a b, text[2 * i]? = some high ∧
          text[2 * i + 1]? = some low ∧ Denotes high a ∧ Denotes low b ∧
          byte.toNat = 16 * a + b) ∧
        ∀ capacity, text.length ≤ capacity →
          encodeWithin bytes capacity = .ok (text.map lowercase)) ∧
      ∀ r, read text = .error r ↔ Complains text r) ∧
    (∀ (text text' : Bytes) (i i' : Nat) (c c' : UInt8), text.length % 2 = 0 →
      text'.length % 2 = 0 → FirstBad text i c → FirstBad text' i' c' →
      read text = read text' → i = i' ∧ c = c') ∧
    ∀ (bytes : Bytes) (capacity : Nat), 2 * bytes.length ≤ capacity →
      ∃ text, encodeWithin bytes capacity = .ok text ∧ read text = .ok bytes ∧
        text.length = 2 * bytes.length ∧ ∀ c ∈ text, IsLowerDigit c := by
  refine ⟨?_, ?_, ?_⟩
  · intro text
    refine ⟨⟨?_, ?_⟩, ?_, read_eq_error_iff text⟩
    · rintro ⟨bytes, h⟩
      have hs := (read_eq_ok_iff text bytes).1 h
      have hl := hs.length_eq
      exact ⟨by omega, hs.isDigit⟩
    · rintro ⟨he, hd⟩
      obtain ⟨bytes, hs⟩ := exists_spells text he hd
      exact ⟨bytes, read_of_spells hs⟩
    · intro bytes h
      have hs := (read_eq_ok_iff text bytes).1 h
      have hl := hs.length_eq
      refine ⟨by omega, fun i byte hi => hs.digits_at hi, ?_⟩
      intro capacity hc
      rw [hs.map_lowercase, encodeWithin_eq (hl ▸ hc)]
  · intro text text' i i' c c' he he' h h' hr
    rw [read_firstBad he h, read_firstBad he' h'] at hr
    cases DecodeError.message_inj.1 (Rejection.invalidEncoding.inj (Except.error.inj hr))
    exact ⟨rfl, rfl⟩
  · intro bytes capacity hc
    refine ⟨encode bytes, encodeWithin_eq hc, read_of_spells (spells_encode bytes), ?_, ?_⟩
    · rw [length_encode, encodedLength, Nat.mul_comm]
    · intro c h
      exact isLowerDigit_of_mem_encode h

/-- Digits of either case, a line break among digits in one place or another, and three digits. -/
theorem read_encodeWithin_inverse_mixed_case :
    (∃ bytes, read [0x61, 0x42, 0x30, 0x46] = .ok bytes ∧ bytes.length = 2 ∧
      encodeWithin bytes 4 = .ok [0x61, 0x62, 0x30, 0x66]) ∧
    read [0x61, 0x0a, 0x30, 0x67] =
      .error (.invalidEncoding "Invalid character '\\n' at position 1") ∧
    read [0x61, 0x0a, 0x30] = .error (.invalidEncoding "Odd number of digits") ∧
    read [0x61, 0x0a, 0x30, 0x67] ≠ read [0x0a, 0x61, 0x30, 0x67] ∧
    ∃ text, encodeWithin [0x0f, 0xab] 4 = .ok text ∧ read text = .ok [0x0f, 0xab] := by
  obtain ⟨hread, hdiffer, hwrite⟩ := read_encodeWithin_inverse
  have hb : FirstBad [0x61, 0x0a, 0x30, 0x67] 1 0x0a :=
    firstBad_cons_succ.2 ⟨by decide, firstBad_head (by decide) _⟩
  have hb' : FirstBad [0x0a, 0x61, 0x30, 0x67] 0 0x0a := firstBad_head (by decide) _
  refine ⟨?_, ?_, ?_, ?_, ?_⟩
  · obtain ⟨hiff, hok, -⟩ := hread [0x61, 0x42, 0x30, 0x46]
    obtain ⟨bytes, h⟩ := hiff.2 ⟨rfl, by simp [IsDigit]⟩
    obtain ⟨hl, -, he⟩ := hok bytes h
    exact ⟨bytes, h, hl, he 4 (by decide)⟩
  · obtain ⟨-, -, herr⟩ := hread [0x61, 0x0a, 0x30, 0x67]
    exact (herr _).2 (.badDigit (by decide) hb .newline)
  · obtain ⟨-, -, herr⟩ := hread [0x61, 0x0a, 0x30]
    exact (herr _).2 (.oddLength (by decide))
  · intro h
    have hi := hdiffer _ _ 1 0 _ _ (by decide) (by decide) hb hb' h
    exact absurd hi.1 (by decide)
  · obtain ⟨text, hw, hr, -⟩ := hwrite [0x0f, 0xab] 4 (by decide)
    exact ⟨text, hw, hr⟩

end HexMonitor.Hex
