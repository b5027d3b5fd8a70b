import Mathlib.Data.List.Forall2
import Rollout.Json.Codec

/-!
What documents mean, apart from how they are read. A list means what its elements do, one by
one in the order they are written in, so nothing of it is lost or moved.
-/

namespace Rollout

/-- What a document that may be nested so many levels means. -/
abbrev Meaning (α : Type) := Nat → Doc → α → Prop

namespace Meaning

variable {α : Type}

/-- A list means what its elements do, one after the other. -/
inductive Each (means : Meaning α) : Meaning (List α)
  | array {depth : Nat} {docs : List Doc} {values : List α}
      (each : List.Forall₂ (means depth) docs values) : Each means (depth + 1) (.array docs) values

/-- Null means that there is no value. -/
inductive Nullable (means : Meaning α) : Meaning (Option α)
  | null {depth : Nat} : Nullable means depth .null none
  | value {depth : Nat} {doc : Doc} {value : α} (present : doc ≠ .null)
      (meant : means depth doc value) : Nullable means depth doc (some value)

/-- What the field of a record means; one that is not there may stand for something as well. -/
inductive Field (means : Meaning α) (default : Option α) : Slot → α → Prop
  | found {depth : Nat} {doc : Doc} {value : α} (meant : means depth doc value) :
      Field means default (.found depth doc) value
  | missing {slot : Slot} {value : α} (absent : ∀ depth doc, slot ≠ .found depth doc)
      (stands : default = some value) : Field means default slot value

/-- What the text of a whole document means. -/
def Text (means : Meaning α) (text : String) (value : α) : Prop :=
  ∃ doc, Doc.parse text = some doc ∧ means Doc.deepest doc value

end Meaning

theorem mapM_some_iff {α β : Type} {read : α → Option β} {docs : List α} {found : List β} :
    docs.mapM read = some found ↔
      List.Forall₂ (fun doc value => read doc = some value) docs found := by
  induction docs generalizing found with
  | nil => simp [eq_comm]
  | cons doc rest ih =>
      simp only [List.mapM_cons, Option.bind_eq_bind, Option.pure_def, Option.bind_eq_some_iff,
        Option.some.injEq, List.forall₂_cons_left_iff]
      constructor
      · rintro ⟨value, here, values, others, rfl⟩
        exact ⟨value, values, here, ih.mp others, rfl⟩
      · rintro ⟨value, values, here, others, rfl⟩
        exact ⟨value, here, values, ih.mpr others, rfl⟩

namespace Decoder

variable {α : Type} {item : Decoder α} {means : Meaning α}

/-- The decoder reads what documents mean, and nothing else. -/
structure Reads (item : Decoder α) (means : Meaning α) : Prop where
  iff : ∀ {depth doc value}, item depth doc = some value ↔ means depth doc value

theorem list_reads (reads : item.Reads means) : (list item).Reads means.Each := by
  refine ⟨@fun depth doc values => ⟨fun read => ?_, ?_⟩⟩
  · unfold list at read
    split at read
    · exact .array ((mapM_some_iff.mp read).imp fun _ _ => reads.iff.mp)
    · cases read
  · rintro ⟨each⟩
    exact mapM_some_iff.mpr (each.imp fun _ _ => reads.iff.mpr)

theorem option_reads (reads : item.Reads means) : (option item).Reads means.Nullable := by
  refine ⟨@fun depth doc value => ⟨fun read => ?_, ?_⟩⟩
  · unfold option at read
    split at read
    · cases read
      exact .null
    · rename_i present
      obtain ⟨value, here, rfl⟩ := Option.map_eq_some_iff.mp read
      exact .value present (reads.iff.mp here)
  · rintro (_ | ⟨present, meant⟩)
    · rfl
    · rw [option, reads.iff.mpr meant]
      · rfl
      · exact present

theorem readText_iff (reads : item.Reads means) {text : String} {value : α} :
    item.readText text = some value ↔ means.Text text value := by
  simp only [readText, Meaning.Text, Option.bind_eq_some_iff, reads.iff]

/-- What is read has one meaning. -/
theorem text_unique (reads : item.Reads means) {text : String} {one two : α}
    (meant : means.Text text one) (meant' : means.Text text two) : one = two := by
  rw [← readText_iff reads] at meant meant'
  exact Option.some.inj (meant.symm.trans meant')

theorem readText_none_iff (reads : item.Reads means) {text : String} :
    item.readText text = none ↔ ∀ value, ¬ means.Text text value := by
  simp only [Option.eq_none_iff_forall_ne_some, ne_eq, readText_iff reads]

end Decoder

namespace Slot

variable {α : Type} {item : Decoder α} {means : Meaning α} {slot : Slot} {value : α}

theorem required_iff (reads : item.Reads means) :
    slot.required item = some value ↔ means.Field none slot value := by
  constructor
  · intro read
    cases slot with
    | found => exact .found (reads.iff.mp read)
    | unnamed | cut => cases read
  · rintro (⟨meant⟩ | ⟨_, stands⟩)
    · exact reads.iff.mpr meant
    · cases stands

theorem withDefault_iff (reads : item.Reads means) {default : α} :
    slot.withDefault item default = some value ↔ means.Field (some default) slot value := by
  constructor
  · intro read
    cases slot with
    | found => exact .found (reads.iff.mp read)
    | unnamed | cut => exact .missing (by rintro _ _ ⟨⟩) read
  · rintro (⟨meant⟩ | ⟨absent, stands⟩)
    · exact reads.iff.mpr meant
    · cases slot with
      | found => exact absurd rfl (absent _ _)
      | unnamed | cut => exact stands

end Slot

end Rollout
