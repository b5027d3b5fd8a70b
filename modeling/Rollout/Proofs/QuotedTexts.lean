import Mathlib.Data.Nat.Digits.Defs
import Rollout.Proofs.NodeForms
import Rollout.Yaml.Printer
import Rollout.Yaml.Quoted

/-!
Texts between quotes read back: a quote inside single quotes is doubled, and a
character inside double quotes stands for itself, has a name or has a code.
-/

namespace Rollout.Yaml

open Numeral (digitValue? readDigit natural?)
open Yaml.Decoder (readDigits_toDigits)

section Quotes

theorem length_le_quoted {escape : Char → List Char} (each : ∀ c, escape c ≠ []) (cs : List Char) :
    cs.length ≤ (cs.flatMap escape).length := by
  induction cs with
  | nil => exact Nat.le_refl 0
  | cons c cs ih =>
      have one : 0 < (escape c).length := List.length_pos_iff.mpr (each c)
      rw [List.flatMap_cons, List.length_append, List.length_cons]
      omega

theorem readSingle_escapeSingle {c : Char} (unbroken : c ≠ '\n') (fuel : Nat)
    (rest read : List Char) :
    readSingle (fuel + 1) (escapeSingle c ++ rest) read = readSingle fuel rest (c :: read) := by
  by_cases quote : c = '\''
  · subst c
    rfl
  · rw [escapeSingle, if_neg quote, List.singleton_append, readSingle]
    · rintro _ rfl
      contradiction
    · rintro rfl
      contradiction
    · rintro rfl
      contradiction

theorem readSingle_flatMap {cs : List Char} (unbroken : '\n' ∉ cs) {fuel : Nat}
    (enough : cs.length < fuel) {rest : List Char} (ends : rest.head? ≠ some '\'')
    (read : List Char) :
    readSingle fuel (cs.flatMap escapeSingle ++ '\'' :: rest) read =
      some (read.reverse ++ cs, rest) := by
  induction cs generalizing fuel read with
  | nil =>
      obtain ⟨fuel, rfl⟩ := Nat.exists_eq_add_one.mpr enough
      rw [List.flatMap_nil, List.nil_append, readSingle, List.append_nil]
      intro more same
      rw [same] at ends
      exact ends rfl
  | cons c cs ih =>
      obtain ⟨fuel, rfl⟩ := Nat.exists_eq_add_one.mpr (Nat.zero_lt_of_lt enough)
      have here : c ≠ '\n' := fun same => unbroken (by simp [same])
      have later : '\n' ∉ cs := fun member => unbroken (List.mem_cons_of_mem c member)
      rw [List.flatMap_cons, List.append_assoc, readSingle_escapeSingle here,
        ih later (Nat.lt_of_succ_lt_succ enough)]
      simp

end Quotes

section Escapes

/-- Characters that a line may hold, checked one by one. -/
theorem shown_of_all {cs : List Char} (all : (cs.all fun c => isPrintable c && c != '\n') = true) :
    ∀ c ∈ cs, isPrintable c = true ∧ c ≠ '\n' := by
  simpa using all

theorem mem_toDigits {base n : Nat} (large : 1 < base) {c : Char}
    (member : c ∈ Nat.toDigits base n) : ∃ d < base, c = Nat.digitChar d := by
  induction n using Nat.strongRecOn with
  | ind n ih =>
      by_cases small : n < base
      · rw [Nat.toDigits_of_lt_base small, List.mem_singleton] at member
        exact ⟨n, small, member⟩
      · rw [Nat.toDigits_of_base_le large (by omega), List.mem_append,
          List.mem_singleton] at member
        rcases member with before | last
        · exact ih (n / base) (Nat.div_lt_self (by omega) large) before
        · exact ⟨n % base, Nat.mod_lt n (by omega), last⟩

theorem digitValue_upper : ∀ d < 16, digitValue? (Nat.digitChar d).toUpper = some d := by
  decide

theorem readDigits_zeros (count : Nat) :
    (List.replicate count '0').foldlM (readDigit 16) 0 = some 0 := by
  induction count with
  | zero => rfl
  | succ count ih =>
      rw [List.replicate_succ, List.foldlM_cons]
      exact ih

theorem natural_upperHex (width n : Nat) : natural? 16 (upperHex width n) = some n := by
  have read : (upperHex width n).foldlM (readDigit 16) 0 = some n := by
    rw [upperHex, List.foldlM_append, readDigits_zeros]
    exact readDigits_toDigits (by decide) digitValue_upper n
  have printed : upperHex width n ≠ [] := by simp [upperHex, Nat.toDigits_ne_nil]
  obtain ⟨c, cs, printed⟩ := List.exists_cons_of_ne_nil printed
  rw [printed] at read ⊢
  exact read

theorem length_upperHex {width n : Nat} (wide : 0 < width) (fits : n < 16 ^ width) :
    (upperHex width n).length = width := by
  have short : (Nat.toDigits 16 n).length ≤ width := Nat.toDigits_length 16 n width wide fits
  simp only [upperHex, List.length_append, List.length_replicate, List.length_map]
  omega

theorem readCode_upperHex {width : Nat} {c : Char} (wide : 0 < width)
    (fits : c.toNat < 16 ^ width) (rest : List Char) :
    readCode width (upperHex width c.toNat ++ rest) = some (c, rest) := by
  have length := length_upperHex wide fits
  have valid : c.toNat.isValidChar := c.valid
  rw [readCode, List.take_left' length, List.drop_left' length, natural_upperHex]
  simp [length, valid]

/-- The reader knows each name, and no name is one of a code. -/
theorem escapeNames_known : ∀ pair ∈ escapeNames, pair.2 ∉ ['\n', 'x', 'u', 'U'] ∧
    isPrintable pair.2 ∧ escapes.lookup pair.2 = some pair.1 := by
  decide

theorem mem_escapeNames {c name : Char} (named : namedEscape? c = some name) :
    (c, name) ∈ escapeNames := by
  obtain ⟨before, after, split, _⟩ := List.lookup_eq_some_iff.mp named
  rw [split]
  exact List.mem_append_right before (List.mem_cons_self ..)

theorem readEscape_named {c name : Char} (named : namedEscape? c = some name) (rest : List Char) :
    readEscape (name :: rest) = some (c, rest) := by
  obtain ⟨apart, _, known⟩ := escapeNames_known _ (mem_escapeNames named)
  simp only [List.mem_cons, not_or] at apart
  rw [readEscape, known]
  · rfl
  · exact apart.2.1
  · exact apart.2.2.1
  · exact apart.2.2.2.1

/-- What is not named is neither a quote nor a backslash nor a break. -/
theorem unnamed_apart {c : Char} (unnamed : namedEscape? c = none) :
    c ≠ '"' ∧ c ≠ '\\' ∧ c ≠ '\n' := by
  refine ⟨?_, ?_, ?_⟩
  all_goals
    rintro rfl
    cases unnamed

/-- How a character is written between double quotes. -/
inductive Escaped (c : Char) : List Char → Prop
  | named {name : Char} (named : namedEscape? c = some name) : Escaped c ['\\', name]
  | itself (unnamed : namedEscape? c = none) (printable : isPrintable c = true) : Escaped c [c]
  | code {mark : Char} {width : Nat} (known : (mark, width) ∈ [('x', 2), ('u', 4), ('U', 8)])
      (fits : c.toNat < 16 ^ width) : Escaped c ('\\' :: mark :: upperHex width c.toNat)

theorem escaped (c : Char) : Escaped c (escapeDouble c) := by
  have least : c.toNat < 0x110000 := by
    have valid := c.valid
    simp only [UInt32.isValidChar, Nat.isValidChar] at valid
    change c.val.toNat < _
    omega
  unfold escapeDouble
  cases named : namedEscape? c with
  | some name => exact .named named
  | none =>
      simp only
      split
      · rename_i printable
        exact .itself named printable
      · split
        · exact .code (by simp) (by omega)
        · split
          · exact .code (by simp) (by omega)
          · exact .code (by simp) (by omega)

namespace Escaped

variable {c : Char} {text : List Char}

/-- A backslash before a name or a code: what the escape says is put before what was read. -/
theorem readDouble_backslash {rest more : List Char} (unbroken : rest.head? ≠ some '\n')
    (reads : readEscape rest = some (c, more)) (fuel : Nat) (read : List Char) :
    readDouble (fuel + 1) ('\\' :: rest) read = readDouble fuel more (c :: read) := by
  rw [readDouble, reads]
  · rfl
  · intro rest same
    rw [same] at unbroken
    exact unbroken rfl

theorem reads (escaped : Escaped c text) (fuel : Nat) (rest read : List Char) :
    readDouble (fuel + 1) (text ++ rest) read = readDouble fuel rest (c :: read) := by
  cases escaped with
  | @named name named =>
      have apart := (escapeNames_known _ (mem_escapeNames named)).1
      apply readDouble_backslash _ (readEscape_named named rest)
      rintro ⟨⟩
      exact apart (List.mem_cons_self ..)
  | itself unnamed printable =>
      obtain ⟨quote, backslash, unbroken⟩ := unnamed_apart unnamed
      rw [List.singleton_append, readDouble]
      all_goals simp_all
  | @code mark width known fits =>
      simp only [List.mem_cons, Prod.mk.injEq, List.not_mem_nil, or_false] at known
      have code : mark ≠ '\n' ∧
          readEscape (mark :: (upperHex width c.toNat ++ rest)) = some (c, rest) := by
        rcases known with ⟨rfl, rfl⟩ | ⟨rfl, rfl⟩ | ⟨rfl, rfl⟩
        all_goals exact ⟨by decide, readCode_upperHex (by decide) fits rest⟩
      apply readDouble_backslash _ code.2
      rintro ⟨⟩
      exact code.1 rfl

theorem ne_nil (escaped : Escaped c text) : text ≠ [] := by
  cases escaped <;> simp

theorem shown_upperHex {width n : Nat} {d : Char} (member : d ∈ upperHex width n) :
    isPrintable d = true ∧ d ≠ '\n' := by
  have each : ∀ k < 16, isPrintable (Nat.digitChar k).toUpper = true ∧
      (Nat.digitChar k).toUpper ≠ '\n' := by decide
  rw [upperHex, List.mem_append, List.mem_map] at member
  rcases member with zero | ⟨digit, inside, rfl⟩
  · rw [List.eq_of_mem_replicate zero]
    decide
  · obtain ⟨k, small, rfl⟩ := mem_toDigits (by decide) inside
    exact each k small

theorem shown (escaped : Escaped c text) : ∀ d ∈ text, isPrintable d = true ∧ d ≠ '\n' := by
  have mark : ∀ d ∈ ['\\', 'x', 'u', 'U'], isPrintable d = true ∧ d ≠ '\n' :=
    shown_of_all (by decide)
  intro d member
  cases escaped with
  | @named name named =>
      obtain ⟨apart, printable, _⟩ := escapeNames_known _ (mem_escapeNames named)
      simp only [List.mem_cons, List.not_mem_nil, or_false] at member
      rcases member with rfl | rfl
      · exact mark _ (by simp)
      · exact ⟨printable, fun same => apart (same ▸ List.mem_cons_self ..)⟩
  | itself unnamed printable =>
      rw [List.mem_singleton] at member
      exact member ▸ ⟨printable, (unnamed_apart unnamed).2.2⟩
  | @code letter width known fits =>
      simp only [List.mem_cons, Prod.mk.injEq, List.not_mem_nil, or_false] at known member
      rcases member with rfl | rfl | member
      · exact mark _ (by simp)
      · apply mark
        rcases known with ⟨rfl, _⟩ | ⟨rfl, _⟩ | ⟨rfl, _⟩ <;> simp
      · exact shown_upperHex member

end Escaped

theorem readDouble_flatMap (cs : List Char) {fuel : Nat} (enough : cs.length < fuel)
    (rest read : List Char) :
    readDouble fuel (cs.flatMap escapeDouble ++ '"' :: rest) read =
      some (read.reverse ++ cs, rest) := by
  induction cs generalizing fuel read with
  | nil =>
      obtain ⟨fuel, rfl⟩ := Nat.exists_eq_add_one.mpr enough
      rw [List.flatMap_nil, List.nil_append, readDouble, List.append_nil]
  | cons c cs ih =>
      obtain ⟨fuel, rfl⟩ := Nat.exists_eq_add_one.mpr (Nat.zero_lt_of_lt enough)
      rw [List.flatMap_cons, List.append_assoc, (escaped c).reads,
        ih (Nat.lt_of_succ_lt_succ enough)]
      simp

end Escapes

end Rollout.Yaml
