import Rollout.Catalog.Portal
import Rollout.Proofs.References

/-!
The path an entity is asked for at. Its parts stand between slashes, and only a name is checked for
them: a kind may hold a slash and a namespace a colon, as the text they were read from tells.
-/

namespace Rollout

open Text (splitAll splitAll_append splitAll_piece splitAll_whole trim)

namespace EntityRef

variable {ref : EntityRef}

/-- A slash stands in front of the first colon. -/
def SlashedFirst (cs : List Char) : Prop :=
  ∃ front rest, cs = front ++ ':' :: rest ∧ ':' ∉ front ∧ '/' ∈ front

namespace Spelling

variable {p : Spelling}

theorem slash_mem_kindChars (proper : p.Proper) : '/' ∈ p.kindChars ↔ SlashedFirst p.chars := by
  rw [kindChars, Text.mem_map_toLower rfl]
  cases kind : p.kind with
  | none =>
      refine ⟨fun member => absurd member (by decide), ?_⟩
      rintro ⟨front, rest, cut, _⟩
      exact absurd (cut ▸ List.mem_append_right _ List.mem_cons_self) (colon_notMem proper kind)
  | some k =>
      have whole : p.chars = k ++ ':' :: (p.space.elim [] (· ++ ['/']) ++ p.name) := by
        simp [chars, kind]
      have apart := (proper.kind k kind).2
      constructor
      · intro member
        exact ⟨k, _, whole, apart, member⟩
      · rintro ⟨front, rest, cut, apart', member⟩
        -- There is one first colon.
        have once := Text.splitOnce_some.mpr ⟨apart, whole⟩
        rw [Text.splitOnce_some.mpr ⟨apart', cut⟩] at once
        cases once
        exact member

theorem colon_mem_spaceChars (proper : p.Proper) :
    ':' ∈ p.spaceChars ↔ 2 ≤ p.chars.count ':' := by
  have named : p.name.count ':' = 0 := List.count_eq_zero.mpr proper.name.2.2
  cases kind : p.kind with
  | none =>
      have none_ : p.chars.count ':' = 0 := List.count_eq_zero.mpr (colon_notMem proper kind)
      cases space : p.space with
      | none => simp [none_, spaceChars, space, defaultSpace]
      | some s => simpa [none_, spaceChars, space] using proper.kindless kind s space
  | some k =>
      have front : k.count ':' = 0 := List.count_eq_zero.mpr (proper.kind k kind).2
      cases space : p.space with
      | none => simp [chars, kind, space, spaceChars, defaultSpace, front, named]
      | some s =>
          have counted : p.chars.count ':' = s.count ':' + 1 := by
            simp [chars, kind, space, front, named]
          rw [spaceChars, space, Option.getD_some, ← List.count_pos_iff, counted]
          omega

end Spelling

end EntityRef

namespace Catalog.Portal

open EntityRef (Spelling)

variable {ref : EntityRef}

/-- A path is cut at the slashes of the kind and at its own two. -/
theorem splitAll_path (space : '/' ∉ ref.space.toList) (name : '/' ∉ ref.name.toList) :
    splitAll '/' (ref.kind ++ "/" ++ ref.space ++ "/" ++ ref.name).toList =
      splitAll '/' ref.kind.toList ++ [ref.space.toList, ref.name.toList] := by
  have path : (ref.kind ++ "/" ++ ref.space ++ "/" ++ ref.name).toList =
      ref.kind.toList ++ '/' :: (ref.space.toList ++ '/' :: ref.name.toList) := by
    simp only [String.toList_append, List.append_assoc]
    rfl
  rw [path, splitAll_append, splitAll_piece space, splitAll_whole name]

/-- Neither namespace nor name holds a slash, so the path of an entity that was read is cut into the
three parts unless its kind holds one, which it does if a slash stands in front of the first colon
of the text. A second colon ends up in the namespace. -/
theorem entity_path_parts {s : String} (read : EntityRef.parse s = .ok ref) :
    (':' ∉ ref.kind.toList ∧ '/' ∉ ref.space.toList ∧ '/' ∉ ref.name.toList ∧
      ':' ∉ ref.name.toList) ∧
    ('/' ∈ ref.kind.toList ↔ EntityRef.SlashedFirst (trim s).toList) ∧
    (':' ∈ ref.space.toList ↔ 2 ≤ (trim s).toList.count ':') ∧
    ∃ path, (∀ p : Portal,
        p.entityUrl ref = p.base ++ "/api/catalog/entities/by-name" ++ "/" ++ path) ∧
      splitAll '/' path.toList =
        splitAll '/' ref.kind.toList ++ [ref.space.toList, ref.name.toList] ∧
      (splitAll '/' path.toList = [ref.kind.toList, ref.space.toList, ref.name.toList] ↔
        '/' ∉ ref.kind.toList) := by
  obtain ⟨p, proper, chars, rfl⟩ := EntityRef.parse_ok.mp read
  have space : '/' ∉ p.ref.space.toList := by
    rw [Spelling.toList_space]
    exact (Spelling.spaceChars_proper proper).2
  have name : '/' ∉ p.ref.name.toList := by
    rw [Spelling.toList_name]
    exact proper.name.2.1
  refine ⟨⟨?_, space, name, ?_⟩, ?_, ?_, p.ref.kind ++ "/" ++ p.ref.space ++ "/" ++ p.ref.name,
    fun portal => ?_, splitAll_path space name, ?_⟩
  · rw [Spelling.toList_kind]
    exact (Spelling.kindChars_proper proper).2
  · rw [Spelling.toList_name]
    exact proper.name.2.2
  · rw [Spelling.toList_kind, ← chars]
    exact Spelling.slash_mem_kindChars proper
  · rw [Spelling.toList_space, ← chars]
    exact Spelling.colon_mem_spaceChars proper
  · simp only [entityUrl, entityPath, String.append_assoc]
  · have three : [p.ref.kind.toList, p.ref.space.toList, p.ref.name.toList] =
        [p.ref.kind.toList] ++ [p.ref.space.toList, p.ref.name.toList] := rfl
    rw [splitAll_path space name, three, List.append_left_inj, Text.splitAll_whole_iff]

theorem sample_entity_path_parts :
    EntityRef.parse "platform/prod" = .ok ⟨"awsenvironment", "platform", "prod"⟩ ∧
    ∃ path, (∀ p : Portal, p.entityUrl ⟨"awsenvironment", "platform", "prod"⟩ =
        p.base ++ "/api/catalog/entities/by-name" ++ "/" ++ path) ∧
      splitAll '/' path.toList =
        ["awsenvironment".toList, "platform".toList, "prod".toList] := by
  have read : EntityRef.parse "platform/prod" = .ok ⟨"awsenvironment", "platform", "prod"⟩ := rfl
  obtain ⟨_, _, _, path, url, _, parts⟩ := entity_path_parts read
  exact ⟨read, path, url, parts.mpr (by decide)⟩

/-- A kind with a slash, and a path of four parts; a namespace with a colon. -/
theorem separators_read :
    EntityRef.parse "a/b:c/d" = .ok ⟨"a/b", "c", "d"⟩ ∧
    (∀ p : Portal, p.entityUrl ⟨"a/b", "c", "d"⟩ =
      p.base ++ "/api/catalog/entities/by-name" ++ "/" ++ "a/b/c/d") ∧
    splitAll '/' "a/b/c/d".toList = [['a'], ['b'], ['c'], ['d']] ∧
    EntityRef.parse "a:b:c/d" = .ok ⟨"a", "b:c", "d"⟩ := by
  refine ⟨rfl, fun p => ?_, by decide +kernel, rfl⟩
  simp only [entityUrl, entityPath, String.append_assoc]
  rfl

end Catalog.Portal

end Rollout
