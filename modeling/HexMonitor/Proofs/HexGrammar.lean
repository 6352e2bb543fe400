import Mathlib.Tactic.SplitIfs
import HexMonitor.Proofs.HexSpelling

namespace HexMonitor.Hex

def IsDigit (c : UInt8) : Prop :=
  (0x30 ≤ c ∧ c ≤ 0x39) ∨ (0x41 ≤ c ∧ c ≤ 0x46) ∨ (0x61 ≤ c ∧ c ≤ 0x66)

instance : DecidablePred IsDigit := fun _ => inferInstanceAs (Decidable (_ ∨ _))

theorem digitValue?_eq_none_iff (c : UInt8) : digitValue? c = none ↔ ¬ IsDigit c := by
  unfold digitValue? IsDigit
  split_ifs with h₁ h₂ h₃ <;> simp [*]

theorem Denotes.isDigit {c : UInt8} {n : Nat} (h : Denotes c n) : IsDigit c := by
  cases h with
  | figure n h => revert n; decide
  | lower n h => revert n; decide
  | upper n h => revert n; decide

theorem Spells.isDigit {text bytes : Bytes} (h : Spells text bytes) : ∀ c ∈ text, IsDigit c := by
  induction h with
  | nil => simp
  | cons hh hl _ ih => simpa [hh.isDigit, hl.isDigit] using ih

theorem exists_denotes {c : UInt8} (h : IsDigit c) : ∃ n, n < 16 ∧ Denotes c n := by
  have hc (base : Nat) (hb : base ≤ c.toNat) : UInt8.ofNat (base + (c.toNat - base)) = c := by
    rw [Nat.add_sub_cancel' hb, UInt8.ofNat_toNat]
  simp only [IsDigit, UInt8.le_iff_toNat_le, UInt8.reduceToNat] at h
  rcases h with ⟨h, h'⟩ | ⟨h, h'⟩ | ⟨h, h'⟩
  · have hd := Denotes.figure (c.toNat - 0x30) (by omega)
    rw [hc 0x30 h] at hd
    exact ⟨_, by omega, hd⟩
  · have hd := Denotes.upper (c.toNat - 0x41) (by omega)
    rw [hc 0x41 h] at hd
    exact ⟨_, by omega, hd⟩
  · have hd := Denotes.lower (c.toNat - 0x61) (by omega)
    rw [hc 0x61 h] at hd
    exact ⟨_, by omega, hd⟩

theorem exists_digitValue? {c : UInt8} (h : IsDigit c) : ∃ v, digitValue? c = some v := by
  obtain ⟨n, -, hd⟩ := exists_denotes h
  exact ⟨_, hd.digitValue?_eq⟩

def IsLowerDigit (c : UInt8) : Prop := (0x30 ≤ c ∧ c ≤ 0x39) ∨ (0x61 ≤ c ∧ c ≤ 0x66)

theorem isLowerDigit_digit {v : UInt8} (h : v < 16) : IsLowerDigit (digit v) := by
  unfold digit IsLowerDigit
  simp only [UInt8.lt_iff_toNat_lt, UInt8.le_iff_toNat_le] at h ⊢
  split <;> simp only [UInt8.toNat_add, UInt8.reduceToNat] at * <;> omega

theorem isLowerDigit_of_mem_encode {bytes : Bytes} {c : UInt8} (h : c ∈ encode bytes) :
    IsLowerDigit c := by
  obtain ⟨byte, -, h⟩ := List.mem_flatMap.1 h
  simp only [digits, List.mem_cons, List.not_mem_nil, or_false] at h
  rcases h with rfl | rfl
  · exact isLowerDigit_digit (high_lt byte)
  · exact isLowerDigit_digit (low_lt byte)

/-- `FirstBad text i c`: of all characters of `text` that are no digits, `c` at place `i` is the
first. -/
structure FirstBad (text : Bytes) (i : Nat) (c : UInt8) : Prop where
  eq_some : text[i]? = some c
  not_digit : ¬ IsDigit c
  before : ∀ j d, j < i → text[j]? = some d → IsDigit d

theorem firstBad_head {c : UInt8} (h : ¬ IsDigit c) (text : Bytes) : FirstBad (c :: text) 0 c :=
  ⟨rfl, h, fun j _ hj _ => absurd hj (Nat.not_lt_zero j)⟩

theorem firstBad_cons_succ {d c : UInt8} {text : Bytes} {i : Nat} :
    FirstBad (d :: text) (i + 1) c ↔ IsDigit d ∧ FirstBad text i c := by
  constructor
  · intro h
    refine ⟨h.before 0 d (by omega) rfl, h.eq_some, h.not_digit, ?_⟩
    intro j e hj he
    exact h.before (j + 1) e (by omega) he
  · rintro ⟨hd, h⟩
    refine ⟨h.eq_some, h.not_digit, ?_⟩
    intro j e hj he
    cases j with
    | zero =>
      cases he
      exact hd
    | succ j => exact h.before j e (by omega) he

theorem exists_firstBad {text : Bytes} (h : ¬ ∀ c ∈ text, IsDigit c) :
    ∃ i c, FirstBad text i c := by
  induction text with
  | nil => exact absurd (by simp) h
  | cons d text ih =>
    by_cases hd : IsDigit d
    · have ht : ¬ ∀ c ∈ text, IsDigit c := fun ht => h (List.forall_mem_cons.2 ⟨hd, ht⟩)
      obtain ⟨i, c, hf⟩ := ih ht
      exact ⟨i + 1, c, firstBad_cons_succ.2 ⟨hd, hf⟩⟩
    · exact ⟨0, d, firstBad_head hd text⟩

/-- Digits before the first character that is none are read in pairs, so it stands either in front
of its pair or behind one more digit. -/
theorem decodePairs_firstBad {text : Bytes} {i : Nat} {c : UInt8} (h : FirstBad text i c)
    (he : text.length % 2 = 0) (position : Nat) (done : Bytes) :
    decodePairs position done text = .error (.badDigit c (position + i)) := by
  have hn := (digitValue?_eq_none_iff c).2 h.not_digit
  match text, i with
  | [], _ => cases h.eq_some
  | [_], _ => simp at he
  | high :: low :: text, 0 =>
    cases h.eq_some
    simp [decodePairs, hn]
  | high :: low :: text, 1 =>
    obtain ⟨hh, h⟩ := firstBad_cons_succ.1 h
    obtain ⟨v, hv⟩ := exists_digitValue? hh
    cases h.eq_some
    simp [decodePairs, hv, hn]
  | high :: low :: text, i + 2 =>
    obtain ⟨hh, h⟩ := firstBad_cons_succ.1 h
    obtain ⟨hl, h⟩ := firstBad_cons_succ.1 h
    obtain ⟨v, hv⟩ := exists_digitValue? hh
    obtain ⟨v', hv'⟩ := exists_digitValue? hl
    have he' : text.length % 2 = 0 := by
      simp only [List.length_cons] at he
      omega
    have hp : position + 2 + i = position + (i + 2) := by omega
    simp only [decodePairs, hv, hv']
    rw [decodePairs_firstBad h he', hp]

/-- Digits in even number spell some bytes. -/
theorem exists_spells (text : Bytes) (he : text.length % 2 = 0) (h : ∀ c ∈ text, IsDigit c) :
    ∃ bytes, Spells text bytes := by
  match text with
  | [] => exact ⟨[], .nil⟩
  | [_] => simp at he
  | high :: low :: text =>
    obtain ⟨a, ha, hh⟩ := exists_denotes (h high (by simp))
    obtain ⟨b, hb, hl⟩ := exists_denotes (h low (by simp))
    have he' : text.length % 2 = 0 := by
      simp only [List.length_cons] at he
      omega
    obtain ⟨bytes, hs⟩ := exists_spells text he' fun c hc => h c (by simp [hc])
    have hn : (UInt8.ofNat (16 * a + b)).toNat = 16 * a + b :=
      UInt8.toNat_ofNat_of_lt' (by unfold UInt8.size; omega)
    have hq : (16 * a + b) / 16 = a := by omega
    have hr : (16 * a + b) % 16 = b := by omega
    exact ⟨_, .cons (by rwa [hn, hq]) (by rwa [hn, hr]) hs⟩

theorem decode_oddLength {text : Bytes} (h : text.length % 2 = 1) :
    decode text = .error .oddLength := if_pos h

theorem decode_firstBad {text : Bytes} {i : Nat} {c : UInt8} (he : text.length % 2 = 0)
    (h : FirstBad text i c) : decode text = .error (.badDigit c i) := by
  have ho : ¬ text.length % 2 = 1 := by omega
  rw [decode, if_neg ho, decodePairs_firstBad h he, Nat.zero_add]

theorem read_firstBad {text : Bytes} {i : Nat} {c : UInt8} (he : text.length % 2 = 0)
    (h : FirstBad text i c) :
    read text = .error (.invalidEncoding (DecodeError.badDigit c i).message) := by
  rw [read, decode_firstBad he h]
  rfl

theorem decode_digits {text : Bytes} (he : text.length % 2 = 0) (h : ∀ c ∈ text, IsDigit c) :
    ∃ bytes, decode text = .ok bytes ∧ text.length = 2 * bytes.length := by
  obtain ⟨bytes, hs⟩ := exists_spells text he h
  exact ⟨bytes, decode_of_spells hs, hs.length_eq⟩

/-- `Complains text r`: reading turns `text` down for the reason `r`. -/
inductive Complains (text : Bytes) : Rejection → Prop
  | oddLength (h : text.length % 2 = 1) :
      Complains text (.invalidEncoding "Odd number of digits")
  | badDigit {i : Nat} {c : UInt8} {shown : String} (he : text.length % 2 = 0)
      (h : FirstBad text i c) (hs : Text.Quotes c shown) :
      Complains text (.invalidEncoding
        ("Invalid character " ++ shown ++ " at position " ++ toString i))

theorem Complains.read_eq {text : Bytes} {r : Rejection} (h : Complains text r) :
    read text = .error r := by
  cases h with
  | oddLength h =>
    rw [read, decode_oddLength h]
    rfl
  | badDigit he h hs =>
    obtain rfl := hs.eq_quoted
    exact read_firstBad he h

theorem Complains.toOption_decode {text : Bytes} {r : Rejection} (h : Complains text r) :
    (decode text).toOption = none := by
  have hr := h.read_eq
  cases hd : decode text with
  | error e => rfl
  | ok bytes =>
    rw [read, hd] at hr
    cases hr

/-- A text either spells some bytes or is turned down. -/
theorem spells_or_complains (text : Bytes) :
    (∃ bytes, Spells text bytes) ∨ ∃ r, Complains text r := by
  by_cases he : text.length % 2 = 1
  · exact .inr ⟨_, .oddLength he⟩
  have he' : text.length % 2 = 0 := by omega
  by_cases hd : ∀ c ∈ text, IsDigit c
  · exact .inl (exists_spells text he' hd)
  · obtain ⟨i, c, h⟩ := exists_firstBad hd
    exact .inr ⟨_, .badDigit he' h (Text.quotes_quoted c)⟩

end HexMonitor.Hex
