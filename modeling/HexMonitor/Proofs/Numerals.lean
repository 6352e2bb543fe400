import HexMonitor.Text.Numeral

namespace HexMonitor.Text

theorem digitValue?_digitChar {d : Nat} (h : d < 16) : digitValue? d.digitChar = some d := by
  have hd : ∀ d < 16, digitValue? (Nat.digitChar d) = some d := by decide
  exact hd d h

theorem isDigitIn_of_le {base base' : Nat} (h : base ≤ base') {c : Char}
    (hc : isDigitIn base c = true) : isDigitIn base' c = true := by
  obtain ⟨d, hd, hlt⟩ := (Option.any_eq_true _ _).1 hc
  rw [isDigitIn, hd]
  exact decide_eq_true (Nat.lt_of_lt_of_le (of_decide_eq_true hlt) h)

theorem valueOf_concat (base : Nat) (digits : List Char) (c : Char) :
    valueOf base (digits ++ [c]) = base * valueOf base digits + (digitValue? c).getD 0 := by
  simp only [valueOf, List.foldl_append, List.foldl_cons, List.foldl_nil]

section

variable {base : Nat}

/-- The written form of a number grows at its end, by one digit for each further place. -/
theorem toDigits_induction (hb : 1 < base) {P : Nat → List Char → Prop}
    (single : ∀ d < base, P d [d.digitChar])
    (concat : ∀ n d, 0 < n → d < base → P n (Nat.toDigits base n) →
      P (base * n + d) (Nat.toDigits base n ++ [d.digitChar]))
    (n : Nat) : P n (Nat.toDigits base n) := by
  induction n using Nat.strongRecOn with
  | ind n ih =>
    rw [Nat.toDigits_eq_if hb]
    split
    · rename_i hn
      exact single n hn
    · rename_i hn
      have hq : 0 < n / base := Nat.div_pos (Nat.not_lt.1 hn) (by omega)
      have hlt : n / base < n := Nat.div_lt_self (by omega) hb
      have h := concat (n / base) (n % base) hq (Nat.mod_lt n (by omega)) (ih _ hlt)
      rwa [Nat.div_add_mod] at h

theorem isDigitIn_digitChar (hb : base ≤ 16) {d : Nat} (hd : d < base) :
    isDigitIn base d.digitChar = true := by
  rw [isDigitIn, digitValue?_digitChar (by omega)]
  exact decide_eq_true hd

theorem isDigitIn_of_mem_toDigits (hb : 1 < base) (hb' : base ≤ 16) (n : Nat) :
    ∀ c ∈ Nat.toDigits base n, isDigitIn base c = true := by
  apply toDigits_induction hb (P := fun _ digits => ∀ c ∈ digits, isDigitIn base c = true)
  · intro d hd c hc
    rw [List.mem_singleton.1 hc]
    exact isDigitIn_digitChar hb' hd
  · intro n d _ hd ih c hc
    rcases List.mem_append.1 hc with hc | hc
    · exact ih c hc
    · rw [List.mem_singleton.1 hc]
      exact isDigitIn_digitChar hb' hd

theorem valueOf_toDigits (hb : 1 < base) (hb' : base ≤ 16) (n : Nat) :
    valueOf base (Nat.toDigits base n) = n := by
  apply toDigits_induction hb (P := fun n digits => valueOf base digits = n)
  · intro d hd
    have hv := valueOf_concat base [] d.digitChar
    rw [digitValue?_digitChar (by omega)] at hv
    simpa [valueOf] using hv
  · intro n d _ hd ih
    rw [valueOf_concat, ih, digitValue?_digitChar (by omega)]
    rfl

theorem toDigits_inj (hb : 1 < base) (hb' : base ≤ 16) {m n : Nat} :
    Nat.toDigits base m = Nat.toDigits base n ↔ m = n := by
  constructor
  · intro h
    have hv := congrArg (valueOf base) h
    rwa [valueOf_toDigits hb hb', valueOf_toDigits hb hb'] at hv
  · intro h
    rw [h]

/-- Only zero itself is written with a zero in front. -/
theorem eq_zero_of_head?_toDigits (hb : 1 < base) (hb' : base ≤ 16) (n : Nat) :
    (Nat.toDigits base n).head? = some '0' → n = 0 := by
  apply toDigits_induction hb (P := fun n digits => digits.head? = some '0' → n = 0)
  · intro d hd h
    have hc : d.digitChar = '0' := by simpa using h
    have hv := digitValue?_digitChar (d := d) (by omega)
    rw [hc] at hv
    exact (Option.some.inj hv).symm
  · intro n d hn _ ih h
    obtain ⟨c, digits, hc⟩ := List.exists_cons_of_ne_nil (Nat.toDigits_ne_nil (n := n) (b := base))
    rw [hc] at ih h
    exact absurd (ih h) (Nat.ne_of_gt hn)

end

/-- `NoDigit base text`: the text does not begin with a digit of the base. -/
def NoDigit (base : Nat) (text : List Char) : Prop :=
  ∀ c ∈ text.head?, isDigitIn base c = false

theorem noDigit_cons {base : Nat} {c : Char} (h : isDigitIn base c = false) (text : List Char) :
    NoDigit base (c :: text) := by
  intro c' hc'
  cases hc'
  exact h

theorem NoDigit.of_le {base base' : Nat} {text : List Char} (h : NoDigit base' text)
    (hb : base ≤ base') : NoDigit base text := by
  intro c hc
  apply Bool.eq_false_iff.2
  intro hd
  exact Bool.eq_false_iff.1 (h c hc) (isDigitIn_of_le hb hd)

theorem takeWhile_of_noDigit {base : Nat} {text : List Char} (h : NoDigit base text) :
    text.takeWhile (isDigitIn base) = [] := by
  cases text with
  | nil => rfl
  | cons c text => simp [h c rfl]

theorem dropWhile_of_noDigit {base : Nat} {text : List Char} (h : NoDigit base text) :
    text.dropWhile (isDigitIn base) = text := by
  cases text with
  | nil => rfl
  | cons c text => simp [h c rfl]

namespace Numeral

/-- A rule that allows the written form of every number below its bound. -/
structure Complete (rule : Numeral) : Prop where
  one_lt_base : 1 < rule.base
  base_le : rule.base ≤ 16
  room : ∀ k ∈ rule.maxDigits?, 0 < k ∧ rule.bound ≤ Nat.pow rule.base k

theorem Complete.allows_toDigits {rule : Numeral} (hc : rule.Complete) {n : Nat}
    (hn : n < rule.bound) : rule.allows (Nat.toDigits rule.base n) = true := by
  have hlen : rule.maxDigits?.all ((Nat.toDigits rule.base n).length ≤ ·) = true := by
    cases hm : rule.maxDigits? with
    | none => rfl
    | some k =>
      obtain ⟨hk, hroom⟩ := hc.room k hm
      have hle := (Nat.length_toDigits_le_iff hc.one_lt_base hk).2 (Nat.lt_of_lt_of_le hn hroom)
      exact decide_eq_true hle
  have hzero : (Nat.toDigits rule.base n).length = 1 ∨
      (Nat.toDigits rule.base n).head? ≠ some '0' := by
    by_cases hh : (Nat.toDigits rule.base n).head? = some '0'
    · left
      obtain rfl := eq_zero_of_head?_toDigits hc.one_lt_base hc.base_le n hh
      rw [Nat.toDigits_of_lt_base (Nat.zero_lt_of_lt hc.one_lt_base)]
      rfl
    · exact .inr hh
  have hne : Nat.toDigits rule.base n ≠ [] := Nat.toDigits_ne_nil
  simp only [allows, Bool.and_eq_true, Bool.or_eq_true, Bool.not_eq_true',
    List.isEmpty_eq_false_iff, beq_iff_eq, bne_iff_ne, decide_eq_true_eq]
  rw [valueOf_toDigits hc.one_lt_base hc.base_le]
  refine ⟨⟨⟨hne, hlen⟩, ?_⟩, hn⟩
  rw [or_assoc]
  exact .inr hzero

/-- What is written is read back, in front of anything but a further digit. -/
theorem Complete.read?_toDigits {rule : Numeral} (hc : rule.Complete) {n : Nat}
    (hn : n < rule.bound) {rest : List Char} (hr : NoDigit rule.base rest) :
    rule.read? (Nat.toDigits rule.base n ++ rest) = some (n, rest) := by
  have hd := isDigitIn_of_mem_toDigits hc.one_lt_base hc.base_le n
  rw [read?, List.takeWhile_append_of_pos hd, List.dropWhile_append_of_pos hd,
    takeWhile_of_noDigit hr, dropWhile_of_noDigit hr, List.append_nil]
  simp only [hc.allows_toDigits hn, if_true, valueOf_toDigits hc.one_lt_base hc.base_le]

theorem Complete.readAll?_toDigits {rule : Numeral} (hc : rule.Complete) {n : Nat}
    (hn : n < rule.bound) : rule.readAll? (Nat.toDigits rule.base n) = some n := by
  have hnil : NoDigit rule.base [] := by simp [NoDigit]
  have hr := hc.read?_toDigits hn hnil
  rw [List.append_nil] at hr
  rw [readAll?, hr]

theorem read?_of_noDigit {rule : Numeral} {text : List Char} (h : NoDigit rule.base text) :
    rule.read? text = none := by
  have ha : rule.allows [] = false := rfl
  simp only [read?, takeWhile_of_noDigit h, ha, Bool.false_eq_true, if_false]

theorem rest_of_read? {rule : Numeral} {text : List Char} {r : Nat × List Char}
    (h : rule.read? text = some r) : r.2 = text.dropWhile (isDigitIn rule.base) := by
  obtain ⟨-, hr⟩ := Option.ite_none_right_eq_some.1 h
  rw [← Option.some.inj hr]

end Numeral

theorem skip?_eq_none {c : Char} {text : List Char} (h : text.head? ≠ some c) :
    skip? c text = none := by
  cases text with
  | nil => rfl
  | cons c' text => exact if_neg fun hc => h (congrArg some hc)

theorem eq_cons_of_skip? {c : Char} {text rest : List Char} (h : skip? c text = some rest) :
    text = c :: rest := by
  cases text with
  | nil => cases h
  | cons c' text =>
    obtain ⟨rfl, hr⟩ := Option.ite_none_right_eq_some.1 h
    rw [Option.some.inj hr]

end HexMonitor.Text
