import Rollout.Text.CharClass

/-!
Classes of characters by their codes. In ASCII the classes of Unicode are the plain ones, and a
capital and its small letter are 32 codes apart.
-/

namespace Rollout.Text

variable {c : Char}

theorem isUpper_iff : c.isUpper = true ↔ 65 ≤ c.toNat ∧ c.toNat ≤ 90 :=
  decide_eq_true_iff.trans (and_congr UInt32.le_iff_toNat_le UInt32.le_iff_toNat_le)

theorem isLower_iff : c.isLower = true ↔ 97 ≤ c.toNat ∧ c.toNat ≤ 122 :=
  Bool.and_eq_true_iff.trans (and_congr (decide_eq_true_iff.trans UInt32.le_iff_toNat_le)
    (decide_eq_true_iff.trans UInt32.le_iff_toNat_le))

theorem isAlpha_eq (c : Char) : c.isAlpha = (c.isUpper || c.isLower) := rfl

theorem isDigit_of_isAlpha (letter : c.isAlpha = true) : c.isDigit = false := by
  rw [isAlpha_eq, Bool.or_eq_true, isUpper_iff, isLower_iff] at letter
  rw [Bool.eq_false_iff]
  intro digit
  have codes : 48 ≤ c.toNat ∧ c.toNat ≤ 57 := Char.isDigit_iff_toNat.mp digit
  omega

theorem isAscii_of_isDigit (digit : c.isDigit = true) : isAscii c = true := by
  have codes : 48 ≤ c.toNat ∧ c.toNat ≤ 57 := Char.isDigit_iff_toNat.mp digit
  exact decide_eq_true (by omega)

theorem isAscii_of_isLower (lower : c.isLower = true) : isAscii c = true := by
  have codes := isLower_iff.mp lower
  exact decide_eq_true (by omega)

/-- Of ASCII only the space and controls are blanks. -/
theorem isBlank_ascii (low : 0x20 < c.toNat) (high : c.toNat < 0x80) : isBlank c = false := by
  have ascii : isAscii c = true := decide_eq_true high
  have visible : c ≠ ' ' := by
    rintro rfl
    exact absurd low (by decide)
  simp only [isBlank, ascii, if_true, Bool.or_eq_false_iff, beq_eq_false_iff_ne, ne_eq, visible,
    not_false_eq_true, Bool.and_eq_false_iff, decide_eq_false_iff_not, true_and]
  omega

theorem isBlank_of_isDigit (digit : c.isDigit = true) : isBlank c = false := by
  have codes : 48 ≤ c.toNat ∧ c.toNat ≤ 57 := Char.isDigit_iff_toNat.mp digit
  exact isBlank_ascii (by omega) (by omega)

theorem isBlank_of_isLower (lower : c.isLower = true) : isBlank c = false := by
  have codes := isLower_iff.mp lower
  exact isBlank_ascii (by omega) (by omega)

/-- The digits of ASCII are its decimal digits. -/
theorem isDigit_iff : c.isDigit = true ↔ isDecimalDigit c = true ∧ isAscii c = true := by
  constructor
  · intro digit
    have ascii := isAscii_of_isDigit digit
    exact ⟨by rw [isDecimalDigit, ascii, if_pos rfl, digit], ascii⟩
  · rintro ⟨digit, ascii⟩
    rwa [isDecimalDigit, ascii, if_pos rfl] at digit

section Case

theorem isUpper_of_isLower (small : c.isLower = true) : c.isUpper = false := by
  have codes := isLower_iff.mp small
  rw [Bool.eq_false_iff, ne_eq, isUpper_iff]
  omega

theorem toNat_toLower (c : Char) :
    c.toLower.toNat = if c.isUpper = true then c.toNat + 32 else c.toNat := by
  by_cases big : c.isUpper = true
  · have codes := isUpper_iff.mp big
    have shifted : c.toLower.toNat = (c.toNat + 32) % 2 ^ 32 :=
      (congrArg Char.toNat (dif_pos (of_decide_eq_true big))).trans (UInt32.toNat_add c.val 32)
    rw [shifted, if_pos big]
    omega
  · have same : c.toLower = c := dif_neg fun codes => big (decide_eq_true codes)
    rw [same, if_neg big]

theorem toNat_toUpper (c : Char) :
    c.toUpper.toNat = if c.isLower = true then c.toNat - 32 else c.toNat := by
  have codes : c.isLower = true ↔ 'a'.val ≤ c.val ∧ c.val ≤ 'z'.val :=
    Bool.and_eq_true_iff.trans (and_congr decide_eq_true_iff decide_eq_true_iff)
  by_cases small : c.isLower = true
  · have bounds := isLower_iff.mp small
    -- Words wrap: the way back to the capital is added.
    have shifted : c.toUpper.toNat = (c.toNat + (2 ^ 32 - 32)) % 2 ^ 32 :=
      (congrArg Char.toNat (dif_pos (codes.mp small))).trans (UInt32.toNat_add c.val (65 - 97))
    rw [shifted, if_pos small]
    omega
  · have same : c.toUpper = c := dif_neg fun bounds => small (codes.mpr bounds)
    rw [same, if_neg small]

theorem toLower_eq_self (small : ¬ c.isUpper = true) : c.toLower = c :=
  Char.toNat_inj.mp (by rw [toNat_toLower, if_neg small])

@[simp] theorem isUpper_toLower (c : Char) : c.toLower.isUpper = false := by
  rw [Bool.eq_false_iff, ne_eq, isUpper_iff, toNat_toLower]
  split
  next big =>
    have codes := isUpper_iff.mp big
    omega
  next small => rwa [← isUpper_iff]

@[simp] theorem isLower_toLower (c : Char) : c.toLower.isLower = c.isAlpha := by
  by_cases big : c.isUpper = true
  · have codes := isUpper_iff.mp big
    rw [isAlpha_eq, big, Bool.true_or, isLower_iff, toNat_toLower, if_pos big]
    omega
  · rw [toLower_eq_self big, isAlpha_eq, Bool.eq_false_iff.mpr big, Bool.false_or]

@[simp] theorem isAlpha_toLower (c : Char) : c.toLower.isAlpha = c.isAlpha := by
  rw [isAlpha_eq, isUpper_toLower, isLower_toLower, Bool.false_or]

end Case

end Rollout.Text
