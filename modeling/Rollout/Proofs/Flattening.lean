import Mathlib.Data.List.Forall2
import Mathlib.Data.List.Induction
import Rollout.Output.Aggregate
import Rollout.Proofs.Dictionary

/-!
Flattened outputs against the document they come from. Two lists are read off
the document, both in its order: the places that have to hold objects, and the
exports. The first place without an object is the error; otherwise the last
reserved export of each name is what the name stands for.
-/

namespace Rollout

namespace Json

def isObject : Json → Bool
  | .object _ => true
  | _ => false

def fields : Json → List (String × Json)
  | .object fields => fields
  | _ => []

end Json

namespace Output

/-- The value of an item and those of its executions, each with its path. -/
def itemPlaces (item : String × Json) : List (String × Json) :=
  item :: item.2.fields.map fun execution => (item.1 ++ "." ++ execution.1, execution.2)

def itemExports (item : String × Json) : List (String × Json) :=
  item.2.fields.flatMap fun execution => execution.2.fields

def places (outputs : List OutputElement) : List (String × Json) :=
  outputs.flatMap fun element => element.flatMap itemPlaces

def exports (outputs : List OutputElement) : List (String × Json) :=
  outputs.flatMap fun element => element.flatMap itemExports

/-- The first place in document order that holds something else than an object. -/
def FirstMisplaced (outputs : List OutputElement) (path : String) : Prop :=
  ∃ before value after, places outputs = before ++ (path, value) :: after ∧
    value.isObject = false ∧ ∀ place ∈ before, place.2.isObject = true

/-- A reserved export that is handed on under the name. -/
def Named (reserved name : String) (leaf : String × Json) : Prop :=
  isReserved reserved leaf = true ∧ kebabCase leaf.1 = name

/-- An export of the name behind which there is no other of it. -/
def LastNamed (reserved name : String) (found : List (String × Json)) (leaf : String × Json) :
    Prop :=
  ∃ before after, found = before ++ leaf :: after ∧ Named reserved name leaf ∧
    ∀ later ∈ after, ¬ Named reserved name later

/-- Some fields are left out, none of them reserved. -/
def LeavesOut (reserved : String) (whole part : List (String × Json)) : Prop :=
  part.Sublist whole ∧ part.filter (isReserved reserved) = whole.filter (isReserved reserved)

/-- The same value, or objects whose fields are related. -/
inductive Within (inside : List (String × Json) → List (String × Json) → Prop) :
    Json → Json → Prop
  | same (value : Json) : Within inside value value
  | object {whole part : List (String × Json)} (related : inside whole part) :
      Within inside (.object whole) (.object part)

/-- Fields of the same names in the same order, their values related. -/
def FieldWise (inside : Json → Json → Prop) : List (String × Json) → List (String × Json) → Prop :=
  List.Forall₂ fun one two => one.1 = two.1 ∧ inside one.2 two.2

/-- Outputs from which exports without the reserved word have been removed. -/
def Thinned (reserved : String) : List OutputElement → List OutputElement → Prop :=
  List.Forall₂ (FieldWise (Within (FieldWise (Within (LeavesOut reserved)))))

/-- The exports, unless one of the places is without an object. -/
def walked (places found : List (String × Json)) : Except OutputError (List (String × Json)) :=
  match places.find? fun place => !place.2.isObject with
  | some place => .error (.notAnObject place.1)
  | none => .ok found

section Walk

variable {one two found more : List (String × Json)}

/-- Of two walks one after the other the second counts only where the first goes through. -/
theorem walked_append : (do
      let first ← walked one found
      let second ← walked two more
      return first ++ second) = walked (one ++ two) (found ++ more) := by
  unfold walked
  rw [List.find?_append]
  cases one.find? fun place => !place.2.isObject with
  | some place => rfl
  | none =>
      cases two.find? fun place => !place.2.isObject <;> rfl

theorem walked_cons {path : String} {value : Json} (is : value.isObject = true) :
    walked ((path, value) :: two) found = walked two found := by
  simp [walked, is]

theorem objectAt_eq (path : String) (value : Json) :
    objectAt path value = walked [(path, value)] value.fields := by
  cases value <;> rfl

theorem itemLeaves_eq (item : String) (executions : List (String × Json)) :
    itemLeaves item executions =
      walked (executions.map fun execution => (item ++ "." ++ execution.1, execution.2))
        (executions.flatMap fun execution => execution.2.fields) := by
  induction executions with
  | nil => rfl
  | cons execution rest ih =>
      obtain ⟨name, values⟩ := execution
      rw [itemLeaves, ih, objectAt_eq]
      exact walked_append

theorem elementLeaves_eq (element : OutputElement) :
    elementLeaves element = walked (element.flatMap itemPlaces) (element.flatMap itemExports) := by
  induction element with
  | nil => rfl
  | cons entry rest ih =>
      obtain ⟨item, executions⟩ := entry
      rw [elementLeaves, ih, List.flatMap_cons, List.flatMap_cons, ← walked_append, itemPlaces,
        itemExports]
      cases executions with
      | object fields =>
          simp only [objectAt, itemLeaves_eq, Json.fields]
          rw [walked_cons (by rfl)]
          rfl
      | _ => rfl

theorem leaves_eq (outputs : List OutputElement) :
    leaves outputs = walked (places outputs) (exports outputs) := by
  induction outputs with
  | nil => rfl
  | cons element rest ih =>
      rw [leaves, ih, elementLeaves_eq]
      exact walked_append

theorem walked_error {e : OutputError} : walked one found = .error e ↔
    ∃ path, e = .notAnObject path ∧ ∃ before value after, one = before ++ (path, value) :: after ∧
      value.isObject = false ∧ ∀ place ∈ before, place.2.isObject = true := by
  unfold walked
  cases first : one.find? fun place => !place.2.isObject with
  | none =>
      have clean := List.find?_eq_none.mp first
      constructor
      · intro absurdity
        cases absurdity
      · rintro ⟨path, _, before, value, after, rfl, wrong, _⟩
        exact absurd (clean (path, value) (by simp)) (by simp [wrong])
  | some place =>
      obtain ⟨path, value⟩ := place
      obtain ⟨wrong, before, after, rfl, clean⟩ := List.find?_eq_some_iff_append.mp first
      constructor
      · intro same
        cases same
        exact ⟨path, rfl, before, value, after, rfl, by simpa using wrong, by simpa using clean⟩
      · rintro ⟨path', rfl, before', value', after', split, wrong', clean'⟩
        have first' : (before' ++ (path', value') :: after').find? (fun place => !place.2.isObject) =
            some (path', value') :=
          List.find?_eq_some_iff_append.mpr
            ⟨by simp [wrong'], before', after', rfl, by simpa using clean'⟩
        rw [← split, first] at first'
        cases first'
        rfl

end Walk

section Named

variable {reserved name : String} {found front : List (String × Json)} {leaf last : String × Json}

theorem lastNamed_snoc : LastNamed reserved name (front ++ [last]) leaf ↔
    Named reserved name last ∧ leaf = last ∨
      ¬ Named reserved name last ∧ LastNamed reserved name front leaf := by
  constructor
  · rintro ⟨before, after, split, named, none_⟩
    rcases List.eq_nil_or_concat after with rfl | ⟨after, behind, rfl⟩
    · obtain ⟨_, same⟩ := List.append_inj' split rfl
      obtain rfl : last = leaf := by simpa using same
      exact .inl ⟨named, rfl⟩
    · rw [List.concat_eq_append, ← List.cons_append, ← List.append_assoc] at split
      obtain ⟨rfl, same⟩ := List.append_inj' split rfl
      obtain rfl : last = behind := by simpa using same
      exact .inr ⟨none_ last (by simp), before, after, rfl, named, fun later member =>
        none_ later (by simp [member])⟩
  · rintro (⟨named, rfl⟩ | ⟨not, before, after, rfl, named, none_⟩)
    · exact ⟨front, [], rfl, named, by simp⟩
    · refine ⟨before, after ++ [last], by simp, named, ?_⟩
      intro later member
      rcases List.mem_append.mp member with early | late
      · exact none_ later early
      · rwa [List.mem_singleton.mp late]

theorem exists_lastNamed : (∃ leaf, LastNamed reserved name found leaf) ↔
    ∃ leaf ∈ found, Named reserved name leaf := by
  induction found using List.reverseRecOn with
  | nil => simp [LastNamed]
  | append_singleton front last ih =>
      by_cases named : Named reserved name last
      · simp [lastNamed_snoc, named]
      · simp [lastNamed_snoc, named, ih]

theorem kept_append (first second : List (String × Json)) :
    kept reserved (first ++ second) = kept reserved first ++ kept reserved second := by
  simp [kept]

/-- What is found under a name is the text of its last export. -/
theorem lookup_kept {text : String} : (kept reserved found).reverse.lookup name = some text ↔
    ∃ leaf, LastNamed reserved name found leaf ∧ leaf.2.asText = text := by
  induction found using List.reverseRecOn with
  | nil => simp [kept, LastNamed]
  | append_singleton front last ih =>
      -- A later export is laid over the earlier ones, so the induction takes the last one off.
      obtain ⟨key, value⟩ := last
      rw [kept_append, List.reverse_append, List.lookup_append]
      by_cases named : Named reserved name (key, value)
      · obtain ⟨is, rfl⟩ := named
        simp [lastNamed_snoc, Named, kept, is]
      · have skipped : (kept reserved [(key, value)]).reverse.lookup name = none := by
          rw [List.lookup_eq_none_iff]
          intro entry member
          obtain ⟨leaf, inside, rfl⟩ := List.mem_map.mp (List.mem_reverse.mp member)
          obtain ⟨only, is⟩ := List.mem_filter.mp inside
          obtain rfl := List.mem_singleton.mp only
          rw [bne_iff_ne]
          rintro rfl
          exact named ⟨is, rfl⟩
        rw [skipped, Option.none_or, ih]
        simp [lastNamed_snoc, named]

end Named

section Thinned

variable {reserved : String}

theorem flatMap_congr₂ {α β γ : Type} {related : α → β → Prop} {f : α → List γ} {g : β → List γ}
    {one : List α} {two : List β} (all : List.Forall₂ related one two)
    (each : ∀ a b, related a b → f a = g b) : one.flatMap f = two.flatMap g := by
  induction all with
  | nil => rfl
  | cons first _ ih => rw [List.flatMap_cons, List.flatMap_cons, each _ _ first, ih]

/-- The paths of places, and whether they hold objects. -/
def outline (found : List (String × Json)) : List (String × Bool) :=
  found.map fun place => (place.1, place.2.isObject)

theorem within_isObject {inside : List (String × Json) → List (String × Json) → Prop}
    {one two : Json} (within : Within inside one two) : one.isObject = two.isObject := by
  cases within <;> rfl

theorem thinned_itemPlaces {one two : String × Json} (name : one.1 = two.1)
    (within : Within (FieldWise (Within (LeavesOut reserved))) one.2 two.2) :
    outline (itemPlaces one) = outline (itemPlaces two) := by
  obtain ⟨item, executions⟩ := one
  obtain ⟨_, executions'⟩ := two
  obtain rfl := name
  cases within with
  | same => rfl
  | object related =>
      simp only [outline, itemPlaces, Json.fields, List.map_cons, List.map_map]
      congr 1
      rw [List.map_eq_flatMap, List.map_eq_flatMap]
      apply flatMap_congr₂ related
      rintro a b ⟨name, inside⟩
      simp [name, within_isObject inside]

theorem thinned_itemExports {one two : String × Json}
    (within : Within (FieldWise (Within (LeavesOut reserved))) one.2 two.2) :
    (itemExports one).filter (isReserved reserved) =
      (itemExports two).filter (isReserved reserved) := by
  obtain ⟨item, executions⟩ := one
  obtain ⟨item', executions'⟩ := two
  cases within with
  | same => rfl
  | object related =>
      simp only [itemExports, Json.fields, List.filter_flatMap]
      apply flatMap_congr₂ related
      rintro ⟨_, values⟩ ⟨_, values'⟩ ⟨_, inside⟩
      cases inside with
      | same => rfl
      | object leaves => exact leaves.2.symm

theorem thinned_places {outputs others : List OutputElement} (thinned : Thinned reserved outputs others) :
    outline (places outputs) = outline (places others) := by
  simp only [outline, places, List.map_flatMap]
  apply flatMap_congr₂ thinned
  intro element element' fieldWise
  apply flatMap_congr₂ fieldWise
  rintro one two ⟨name, within⟩
  exact thinned_itemPlaces name within

theorem thinned_exports {outputs others : List OutputElement} (thinned : Thinned reserved outputs others) :
    (exports outputs).filter (isReserved reserved) = (exports others).filter (isReserved reserved) := by
  simp only [exports, List.filter_flatMap]
  apply flatMap_congr₂ thinned
  intro element element' fieldWise
  apply flatMap_congr₂ fieldWise
  rintro one two ⟨_, within⟩
  exact thinned_itemExports within

theorem walked_congr {α : Type} {one two found more : List (String × Json)}
    {f : List (String × Json) → α} (alike : outline one = outline two) (same : f found = f more) :
    (walked one found).map f = (walked two more).map f := by
  have faults : (one.find? fun place => !place.2.isObject).map Prod.fst =
      (two.find? fun place => !place.2.isObject).map Prod.fst := by
    have first := congrArg (fun found => (found.find? fun place => !place.2).map Prod.fst) alike
    simpa [outline, List.find?_map, Function.comp_def] using first
  -- The first fault is the same on both sides, since it can be told from the outlines.
  unfold walked
  cases here : one.find? fun place => !place.2.isObject with
  | none =>
      cases there : two.find? fun place => !place.2.isObject with
      | none => exact congrArg Except.ok same
      | some place => simp [here, there] at faults
  | some place =>
      cases there : two.find? fun place => !place.2.isObject with
      | none => simp [here, there] at faults
      | some place' =>
          have path : place.1 = place'.1 := by simpa [here, there] using faults
          simp [Except.map, path]

end Thinned

section Aggregate

variable (reserved : String) (outputs : List OutputElement)

theorem aggregate_eq : aggregate reserved outputs =
    (walked (places outputs) (exports outputs)).map fun found =>
      Dict.ofList (kept reserved found) := by
  rw [aggregate, leaves_eq]

theorem aggregate_error {e : OutputError} : aggregate reserved outputs = .error e ↔
    ∃ path, e = .notAnObject path ∧ FirstMisplaced outputs path := by
  unfold FirstMisplaced
  rw [← walked_error, aggregate_eq]
  cases walked (places outputs) (exports outputs) <;> simp [Except.map]

theorem aggregate_ok {found : Dict String} (passes : aggregate reserved outputs = .ok found) :
    found = Dict.ofList (kept reserved (exports outputs)) := by
  rw [aggregate_eq, walked] at passes
  split at passes
  · cases passes
  · cases passes
    rfl

theorem aggregate_append (others : List OutputElement) :
    aggregate reserved (outputs ++ others) = do
      let first ← aggregate reserved outputs
      let second ← aggregate reserved others
      return first.overlay second := by
  have split : walked (places (outputs ++ others)) (exports (outputs ++ others)) = do
      let first ← walked (places outputs) (exports outputs)
      let second ← walked (places others) (exports others)
      return first ++ second := by
    simp only [places, exports, List.flatMap_append]
    exact walked_append.symm
  rw [aggregate_eq, aggregate_eq, aggregate_eq, split]
  cases walked (places outputs) (exports outputs) with
  | error e => rfl
  | ok first =>
      cases walked (places others) (exports others) with
      | error e => rfl
      | ok second =>
          change Except.ok (Dict.ofList (kept reserved (first ++ second))) = _
          rw [kept_append, Dict.ofList_append]
          rfl

end Aggregate

/-- The first misplaced value is the error. Without one, a name stands for its last reserved
export, so exports without the reserved word do not count and later outputs override. -/
theorem flattened_in_order (reserved : String) (outputs : List OutputElement) :
    (∀ e, aggregate reserved outputs = .error e ↔
      ∃ path, e = .notAnObject path ∧ FirstMisplaced outputs path) ∧
    ((∃ e, aggregate reserved outputs = .error e) ↔
      ∃ place ∈ places outputs, place.2.isObject = false) ∧
    (∀ found, aggregate reserved outputs = .ok found →
      (∀ name, name ∈ found.keys ↔ ∃ leaf ∈ exports outputs, Named reserved name leaf) ∧
      ∀ name text, found.get? name = some text ↔
        ∃ leaf, LastNamed reserved name (exports outputs) leaf ∧ leaf.2.asText = text) ∧
    (∀ others, Thinned reserved outputs others →
      aggregate reserved others = aggregate reserved outputs) ∧
    ∀ others, aggregate reserved (outputs ++ others) = do
      let first ← aggregate reserved outputs
      let second ← aggregate reserved others
      return first.overlay second := by
  refine ⟨fun e => aggregate_error reserved outputs, ?_, ?_, ?_, aggregate_append reserved outputs⟩
  · rw [aggregate_eq, walked]
    cases first : (places outputs).find? fun place => !place.2.isObject with
    | none => simpa [Except.map] using first
    | some place =>
        have member := List.mem_of_find?_eq_some first
        have wrong := List.find?_some first
        exact ⟨fun _ => ⟨place, member, by simpa using wrong⟩, fun _ => ⟨_, rfl⟩⟩
  · intro found passes
    obtain rfl := aggregate_ok reserved outputs passes
    have text_iff : ∀ name text, (Dict.ofList (kept reserved (exports outputs))).get? name =
        some text ↔ ∃ leaf, LastNamed reserved name (exports outputs) leaf ∧
          leaf.2.asText = text := by
      intro name text
      rw [Dict.get?_ofList, lookup_kept]
    refine ⟨fun name => ?_, text_iff⟩
    rw [← exists_lastNamed, Dict.mem_keys]
    simp [text_iff]
  · intro others thinned
    rw [aggregate_eq, aggregate_eq]
    apply walked_congr (thinned_places thinned).symm
    rw [kept, kept, thinned_exports thinned]

namespace Sample

/-- Two exports that are handed on under one name, and one that is not handed on. -/
def outputs : List OutputElement := [
  [("web", .object [("web:1", .object [("bawsUrl", .string "/a"), ("Engine", .null)])])],
  [("db", .object [("db:2", .object [("baws_url", .int 2)])])]]

def thinned : List OutputElement := [
  [("web", .object [("web:1", .object [("bawsUrl", .string "/a")])])],
  [("db", .object [("db:2", .object [("baws_url", .int 2)])])]]

theorem outputs_thinned : Thinned "baws" outputs thinned := by
  have build : Within (LeavesOut "baws") (.object [("bawsUrl", .string "/a"), ("Engine", .null)])
      (.object [("bawsUrl", .string "/a")]) := .object ⟨by simp, rfl⟩
  have web : Within (FieldWise (Within (LeavesOut "baws")))
      (.object [("web:1", .object [("bawsUrl", .string "/a"), ("Engine", .null)])])
      (.object [("web:1", .object [("bawsUrl", .string "/a")])]) :=
    .object (.cons ⟨rfl, build⟩ .nil)
  exact .cons (.cons ⟨rfl, web⟩ .nil) (.cons (.cons ⟨rfl, .same _⟩ .nil) .nil)

end Sample

theorem sample_flattened :
    aggregate "baws" Sample.thinned = .ok (Dict.ofList [("baws-url", "2")]) ∧
      ∃ leaf, LastNamed "baws" "baws-url" (exports Sample.outputs) leaf ∧ leaf.2.asText = "2" := by
  have whole : aggregate "baws" Sample.outputs = .ok (Dict.ofList [("baws-url", "2")]) := rfl
  obtain ⟨_, _, passes, same, _⟩ := flattened_in_order "baws" Sample.outputs
  exact ⟨(same Sample.thinned Sample.outputs_thinned).trans whole,
    ((passes _ whole).2 "baws-url" "2").mp rfl⟩

end Output

end Rollout
