import Rollout.Credential.Role
import Rollout.Proofs.Trimming
import Rollout.Text.Split

/-!
The texts that name an account or a region. Blanks around are no part of them, and what is left has
to fit a pattern, in which a digit is any decimal digit and not only one of ASCII. Of the texts in
ASCII those are accepted that fit with its ten digits, and the account of a role is the text that
was read.
-/

namespace Rollout

open Text (isAscii isDecimalDigit splitAll splitAll_piece trim)

variable {cs : List Char}

/-- Twelve digits. -/
structure AccountId.Fits (digit : Char → Bool) (cs : List Char) : Prop where
  length : cs.length = 12
  digits : ∀ c ∈ cs, digit c = true

/-- Two letters, a word of at least four, and a number, joined by hyphens. -/
inductive Region.Fits (digit : Char → Bool) : List Char → Prop
  | joined {one two : Char} {word number : List Char} (first : one.isLower = true)
      (second : two.isLower = true) (letters : ∀ c ∈ word, c.isLower = true)
      (long : 4 ≤ word.length) (numbered : number ≠ []) (digits : ∀ c ∈ number, digit c = true) :
      Fits digit (one :: two :: '-' :: (word ++ '-' :: number))

theorem isAccountId_iff : isAccountId cs = true ↔ AccountId.Fits isDecimalDigit cs := by
  simp only [isAccountId, Bool.and_eq_true, beq_iff_eq, List.all_eq_true]
  exact ⟨fun ⟨length, digits⟩ => ⟨length, digits⟩, fun fits => ⟨fits.length, fits.digits⟩⟩

theorem isRegion_iff : isRegion cs = true ↔ Region.Fits isDecimalDigit cs := by
  constructor
  · intro region
    unfold isRegion at region
    split at region
    · rename_i one two rest
      dsimp only at region
      split at region
      · rename_i number behind
        simp only [Bool.and_eq_true, decide_eq_true_eq, Bool.not_eq_true',
          List.isEmpty_eq_false_iff, List.all_eq_true] at region
        obtain ⟨⟨⟨⟨first, second⟩, long⟩, numbered⟩, digits⟩ := region
        -- The word ends at the first character that is no letter, the second hyphen.
        have whole : rest = rest.takeWhile Char.isLower ++ '-' :: number := by
          rw [← behind, List.takeWhile_append_dropWhile]
        have letters : ∀ c ∈ rest.takeWhile Char.isLower, c.isLower = true :=
          List.all_eq_true.mp List.all_takeWhile
        rw [whole]
        exact .joined first second letters long numbered digits
      · cases region
    · cases region
  · rintro ⟨first, second, letters, long, numbered, digits⟩
    rename_i one two word number
    have stop : ('-' :: number).takeWhile Char.isLower = [] := rfl
    have stop' : ('-' :: number).dropWhile Char.isLower = '-' :: number := rfl
    have front : (word ++ '-' :: number).takeWhile Char.isLower = word := by
      rw [List.takeWhile_append_of_pos letters, stop, List.append_nil]
    have behind : (word ++ '-' :: number).dropWhile Char.isLower = '-' :: number := by
      rw [List.dropWhile_append_of_pos letters, stop']
    simp only [isRegion, front, behind, first, second, Bool.and_eq_true, decide_eq_true_eq,
      Bool.not_eq_true', List.isEmpty_eq_false_iff, List.all_eq_true]
    exact ⟨⟨⟨⟨trivial, trivial⟩, long⟩, numbered⟩, digits⟩

theorem AccountId.fits_ascii : AccountId.Fits Char.isDigit cs ↔
    AccountId.Fits isDecimalDigit cs ∧ ∀ c ∈ cs, isAscii c = true := by
  constructor
  · rintro ⟨length, digits⟩
    exact ⟨⟨length, fun c member => (Text.isDigit_iff.mp (digits c member)).1⟩,
      fun c member => (Text.isDigit_iff.mp (digits c member)).2⟩
  · rintro ⟨⟨length, digits⟩, ascii⟩
    exact ⟨length, fun c member => Text.isDigit_iff.mpr ⟨digits c member, ascii c member⟩⟩

theorem Region.fits_ascii : Region.Fits Char.isDigit cs ↔
    Region.Fits isDecimalDigit cs ∧ ∀ c ∈ cs, isAscii c = true := by
  constructor
  · rintro ⟨first, second, letters, long, numbered, digits⟩
    refine ⟨.joined first second letters long numbered fun c member =>
      (Text.isDigit_iff.mp (digits c member)).1, ?_⟩
    simp only [List.forall_mem_cons, List.forall_mem_append]
    exact ⟨Text.isAscii_of_isLower first, Text.isAscii_of_isLower second, rfl,
      fun c member => Text.isAscii_of_isLower (letters c member), rfl,
      fun c member => Text.isAscii_of_isDigit (digits c member)⟩
  · rintro ⟨⟨first, second, letters, long, numbered, digits⟩, ascii⟩
    simp only [List.forall_mem_cons, List.forall_mem_append] at ascii
    obtain ⟨_, _, _, _, _, ascii⟩ := ascii
    exact .joined first second letters long numbered fun c member =>
      Text.isDigit_iff.mpr ⟨digits c member, ascii c member⟩

section Reading

variable {α : Type} {parse : String → Except ValidationError α} {text : α → String}
  {fault : String → ValidationError} {fits : (Char → Bool) → List Char → Prop}

/-- What becomes of a text: if it fits without the blanks around it, it is taken without them, and
would be taken again; otherwise it is shown as it was given. -/
structure ReadAs (parse : String → Except ValidationError α) (text : α → String)
    (fault : String → ValidationError) (fits : (Char → Bool) → List Char → Prop) (s : String) :
    Prop where
  accepted : (∃ value, parse s = .ok value) ↔ fits isDecimalDigit (trim s).toList
  refused : parse s = .error (fault s) ↔ ¬ fits isDecimalDigit (trim s).toList
  kept : ∀ value, parse s = .ok value → text value = trim s ∧ parse (text value) = .ok value
  ascii : fits Char.isDigit (trim s).toList ↔
    ∃ value, parse s = .ok value ∧ ∀ c ∈ (text value).toList, isAscii c = true

theorem readAs_of_check {check : List Char → Bool} {make : String → α}
    (form : ∀ s, parse s = if check (trim s).toList then .ok (make (trim s)) else .error (fault s))
    (made : ∀ s, text (make s) = s)
    (checked : ∀ cs, check cs = true ↔ fits isDecimalDigit cs)
    (plain : ∀ cs, fits Char.isDigit cs ↔ fits isDecimalDigit cs ∧ ∀ c ∈ cs, isAscii c = true)
    (s : String) : ReadAs parse text fault fits s := by
  by_cases good : check (trim s).toList = true
  · have fit := (checked _).mp good
    have read : parse s = .ok (make (trim s)) := by rw [form, if_pos good]
    have again : parse (trim s) = .ok (make (trim s)) := by
      rw [form, Text.trim_trim, if_pos good]
    refine ⟨⟨fun _ => fit, fun _ => ⟨_, read⟩⟩, ?_, ?_, ?_⟩
    · rw [read]
      exact ⟨fun refused => (nomatch refused), fun unfit => absurd fit unfit⟩
    · intro value accepted
      rw [read] at accepted
      cases accepted
      rw [made]
      exact ⟨rfl, again⟩
    · rw [plain]
      constructor
      · rintro ⟨_, ascii⟩
        exact ⟨_, read, by rwa [made]⟩
      · rintro ⟨value, accepted, ascii⟩
        rw [read] at accepted
        cases accepted
        rw [made] at ascii
        exact ⟨fit, ascii⟩
  · have unfit : ¬ fits isDecimalDigit (trim s).toList := fun fit => good ((checked _).mpr fit)
    have read : parse s = .error (fault s) := by rw [form, if_neg good]
    have none_ (value : α) : parse s ≠ .ok value := by
      rw [read]
      exact fun accepted => nomatch accepted
    refine ⟨⟨fun ⟨value, accepted⟩ => absurd accepted (none_ value), fun fit => absurd fit unfit⟩,
      ⟨fun _ => unfit, fun _ => read⟩, fun value accepted => absurd accepted (none_ value), ?_⟩
    rw [plain]
    exact ⟨fun ⟨fit, _⟩ => absurd fit unfit,
      fun ⟨value, accepted, _⟩ => absurd accepted (none_ value)⟩

end Reading

theorem AccountId.readAs (s : String) :
    ReadAs AccountId.parse AccountId.text .invalidAccountId AccountId.Fits s :=
  readAs_of_check (fun _ => rfl) (fun _ => rfl) (fun _ => isAccountId_iff)
    (fun _ => AccountId.fits_ascii) s

theorem Region.readAs (s : String) :
    ReadAs Region.parse Region.text .invalidRegion Region.Fits s :=
  readAs_of_check (fun _ => rfl) (fun _ => rfl) (fun _ => isRegion_iff)
    (fun _ => Region.fits_ascii) s

/-- The text of an account that was read. -/
theorem AccountId.fits_of_parse {s : String} {account : AccountId}
    (parsed : AccountId.parse s = .ok account) :
    AccountId.Fits isDecimalDigit account.text.toList := by
  have read := AccountId.readAs s
  rw [(read.kept account parsed).1]
  exact read.accepted.mp ⟨account, parsed⟩

namespace RoleArn

theorem toList_ofConvention (account : AccountId) (platform provider : String) :
    (ofConvention account platform provider).text.toList =
      "arn:aws:iam::".toList ++ (account.text.toList ++ ':' ::
        ("role/" ++ platform ++ "-" ++ provider ++ "-operations-role").toList) := by
  change ("arn:aws:iam::" ++ account.text ++ ":role/" ++ platform ++ "-" ++ provider
    ++ "-operations-role").toList = _
  simp only [String.toList_append, List.append_assoc]
  rfl

theorem splitAll_front (rest : List Char) : splitAll ':' ("arn:aws:iam::".toList ++ rest) =
    ["arn".toList, "aws".toList, "iam".toList, []] ++ splitAll ':' rest := by
  change splitAll ':' ("arn".toList ++ ':' :: ("aws".toList ++ ':' ::
    ("iam".toList ++ ':' :: ([] ++ ':' :: rest)))) = _
  rw [splitAll_piece (by decide), splitAll_piece (by decide), splitAll_piece (by decide),
    splitAll_piece (by decide)]
  rfl

/-- The account is the fifth of the parts of a role between colons. -/
theorem account_ofConvention {account : AccountId} (apart : ':' ∉ account.text.toList)
    (platform provider : String) :
    (splitAll ':' (ofConvention account platform provider).text.toList)[4]? =
      some account.text.toList := by
  rw [toList_ofConvention, splitAll_front, splitAll_piece apart]
  rfl

end RoleArn

/-- A text names an account or a region if it fits the pattern without the blanks around it, and a
role by convention has the twelve decimal digits of its account as the fifth of its parts. -/
theorem targets_read (s : String) :
    ReadAs AccountId.parse AccountId.text .invalidAccountId AccountId.Fits s ∧
    ReadAs Region.parse Region.text .invalidRegion Region.Fits s ∧
    ∀ account, AccountId.parse s = .ok account → ∀ platform provider, ∃ part,
      (splitAll ':' (RoleArn.ofConvention account platform provider).text.toList)[4]? = some part ∧
      part = account.text.toList ∧ AccountId.Fits isDecimalDigit part := by
  refine ⟨AccountId.readAs s, Region.readAs s, fun account parsed platform provider => ?_⟩
  have fits := AccountId.fits_of_parse parsed
  have apart : ':' ∉ account.text.toList := fun member =>
    absurd (fits.digits ':' member) (by decide)
  exact ⟨_, RoleArn.account_ofConvention apart platform provider, rfl, fits⟩

theorem sample_targets_read :
    AccountId.parse " 123456789012 " = .ok ⟨"123456789012"⟩ ∧
    AccountId.Fits Char.isDigit "123456789012".toList ∧
    (splitAll ':' (RoleArn.ofConvention ⟨"123456789012"⟩ "opa" "dev").text.toList)[4]? =
      some "123456789012".toList := by
  have parsed : AccountId.parse " 123456789012 " = .ok ⟨"123456789012"⟩ := rfl
  obtain ⟨accounts, _, roles⟩ := targets_read " 123456789012 "
  have kept : "123456789012" = trim " 123456789012 " := (accounts.kept _ parsed).1
  obtain ⟨part, fifth, same, _⟩ := roles _ parsed "opa" "dev"
  refine ⟨parsed, ?_, same ▸ fifth⟩
  rw [kept]
  exact accounts.ascii.mpr ⟨_, parsed, List.all_eq_true.mp rfl⟩

/-- An Arabic two is a decimal digit, so it is read in the number of an account or a region, and
stands in the role. -/
theorem arabic_digit_read :
    AccountId.parse "12345678901٢" = .ok ⟨"12345678901٢"⟩ ∧
    ¬ AccountId.Fits Char.isDigit "12345678901٢".toList ∧
    (splitAll ':' (RoleArn.ofConvention ⟨"12345678901٢"⟩ "opa" "dev").text.toList)[4]? =
      some "12345678901٢".toList ∧
    Region.parse "us-east-٢" = .ok ⟨"us-east-٢"⟩ ∧
    ¬ Region.Fits Char.isDigit "us-east-٢".toList := by
  refine ⟨rfl, ?_, by decide +kernel, rfl, ?_⟩
  · intro fits
    exact absurd ((AccountId.fits_ascii.mp fits).2 '٢' (by decide)) (by decide)
  · intro fits
    exact absurd ((Region.fits_ascii.mp fits).2 '٢' (by decide)) (by decide)

end Rollout
