import Rollout.Proofs.Flattening
import Rollout.Proofs.JsonText
import Rollout.Proofs.PipelineResult

/-!
The output an execution ends with and what is read out of it. The execution
writes a document with an element for each repository; a reader looks up the
elements in it, whatever else the document holds, and flattens them.
-/

namespace Rollout

open Doc (ofJson ofItems ofFields toJson?)

namespace Decoder

theorem mapM_map_of_inverse {α β : Type} {read : β → Option α} {write : α → β} {items : List α}
    (each : ∀ item ∈ items, read (write item) = some item) :
    (items.map write).mapM read = some items := by
  induction items with
  | nil => rfl
  | cons item rest ih =>
      have others := ih fun value member => each value (List.mem_cons_of_mem _ member)
      rw [List.map_cons, List.mapM_cons, each item (by simp), others]
      rfl

theorem fields_ofJson {depth : Nat} {fields : List (String × Json)}
    (distinct : (fields.map Prod.fst).Nodup)
    (each : ∀ field ∈ fields, toJson? depth (ofJson field.2) = some field.2) :
    Decoder.fields .json (depth + 1) (ofJson (.object fields)) = some fields := by
  rw [ofJson, Decoder.fields, Doc.ofFields_eq, mapM_map_of_inverse, Option.map_some,
    upsertAll_of_nodup distinct]
  intro field member
  simp [entry, json, each field member]

theorem list_fields_ofJson {depth : Nat} {elements : List (List (String × Json))}
    (distinct : ∀ element ∈ elements, (element.map Prod.fst).Nodup)
    (each : ∀ element ∈ elements, ∀ field ∈ element,
      toJson? depth (ofJson field.2) = some field.2) :
    list (.fields .json) (depth + 2) (ofJson (.array (elements.map .object))) = some elements := by
  rw [ofJson, list, Doc.ofItems_eq, List.map_map]
  exact mapM_map_of_inverse fun element member =>
    fields_ofJson (distinct element member) (each element member)

end Decoder

namespace Json

theorem plain_dict (texts : Dict String) : Plain 1 (.object (texts.map .string).entries) := by
  refine .object (Dict.nodup_entries _) ?_
  intro field member
  obtain ⟨entry, _, rfl⟩ := List.mem_map.mp member
  exact .string entry.2

end Json

namespace Local

open Time (Instant)

namespace Run

/-- What the repositories have exported, in their order and for each by name. -/
def exported (exports : Nat → String → Dict Json) (repositories : List String) :
    List (String × Json) :=
  repositories.zipIdx.flatMap fun entry => (exports entry.2 entry.1).entries

/-- Two levels lie above what a build has exported. -/
theorem outputElement_plain {depth : Nat} (entry : String × Build)
    (plain : ∀ leaf ∈ entry.2.outputs.entries, leaf.2.Plain depth) :
    ∀ field ∈ outputElement entry, field.2.Plain (depth + 2) := by
  intro field member
  obtain rfl := List.mem_singleton.mp member
  exact Json.plain_field entry.2.id (.object (Dict.nodup_entries _) plain)

theorem toJson_plain (override : BuildVariable) : override.toJson.Plain 1 := by
  refine .object (by simp) ?_
  intro field member
  simp only [List.mem_cons, List.not_mem_nil, or_false] at member
  rcases member with rfl | rfl | rfl <;> exact .string _

theorem outputJson_plain {depth : Nat} (input : PipelineInput) (deployed : List (String × Build))
    (plain : ∀ entry ∈ deployed, ∀ leaf ∈ entry.2.outputs.entries, leaf.2.Plain depth) :
    (outputJson input deployed).Plain (depth + 6) := by
  refine .object (by simp) ?_
  intro field member
  simp only [List.mem_cons, List.not_mem_nil, or_false] at member
  rcases member with rfl | rfl | rfl | rfl | rfl
  · have repositories : Json.Plain 1 (.array (input.repositories.map .string)) :=
      Json.plain_map .string fun repository _ => .string repository
    exact repositories.mono (by omega)
  · exact (Json.plain_dict _).mono (by omega)
  · have overrides := Json.plain_map BuildVariable.toJson
      fun override (_ : override ∈ buildVariables input.parameters) => toJson_plain override
    exact (Json.plain_field _ overrides).mono (by omega)
  · have packaged : Json.Plain 2 (.array (input.repositories.map fun repository =>
        .object [("repository", .string repository)])) :=
      Json.plain_map _ fun repository _ => Json.plain_field "repository" (.string repository)
    exact packaged.mono (by omega)
  · have outputs := Json.plain_map (fun entry => .object (outputElement entry))
      fun entry (inside : entry ∈ deployed) =>
        .object (by simp [outputElement]) (outputElement_plain entry (plain entry inside))
    exact Json.plain_field "outputs" outputs

/-- The document is read as the elements it was written from. -/
theorem decode_outputJson {input : PipelineInput} {deployed : List (String × Build)}
    (plain : ∀ entry ∈ deployed, ∀ leaf ∈ entry.2.outputs.entries, leaf.2.Plain 100) :
    OutputDocument.decode Doc.deepest (ofJson (outputJson input deployed)) =
      some ⟨deployed.map outputElement⟩ := by
  have elements : Decoder.list (.fields .json) 125 (ofJson (.array ((deployed.map outputElement).map
      .object))) = some (deployed.map outputElement) := by
    apply Decoder.list_fields_ofJson
    · intro element member
      obtain ⟨entry, _, rfl⟩ := List.mem_map.mp member
      simp [outputElement]
    · intro element member field inside
      obtain ⟨entry, here, rfl⟩ := List.mem_map.mp member
      exact Doc.toJson?_ofJson (outputElement_plain entry (plain entry here) field inside) (by decide)
  rw [List.map_map] at elements
  have reads : OutputDocument.decode Doc.deepest (ofJson (outputJson input deployed)) =
      (Decoder.list (.fields .json) 125 (ofJson (.array (deployed.map fun entry =>
        .object (outputElement entry))))).bind fun outputs => some ⟨outputs⟩ := rfl
  change Decoder.list _ _ (ofJson (.array (deployed.map fun entry =>
    .object (outputElement entry)))) = _ at elements
  rw [reads, elements]
  rfl

/-- The elements hold objects wherever they have to. -/
theorem aggregate_elements (reserved : String) (deployed : List (String × Build)) :
    Output.aggregate reserved (deployed.map outputElement) = .ok (Dict.ofList
      (Output.kept reserved (deployed.flatMap fun entry => entry.2.outputs.entries))) := by
  have found : Output.exports (deployed.map outputElement) =
      deployed.flatMap fun entry => entry.2.outputs.entries := by
    simp [Output.exports, outputElement, Output.itemExports, Json.fields, List.flatMap_map]
  have places : ∀ place ∈ Output.places (deployed.map outputElement), place.2.isObject = true := by
    intro place member
    simp only [Output.places, outputElement, Output.itemPlaces, Json.fields, List.flatMap_map,
      List.mem_flatMap, List.mem_cons, List.map_cons, List.map_nil, List.flatMap_cons,
      List.flatMap_nil, List.append_nil, List.not_mem_nil, or_false] at member
    obtain ⟨entry, _, rfl | rfl⟩ := member <;> rfl
  have clear : (Output.places (deployed.map outputElement)).find?
      (fun place => !place.2.isObject) = none := by
    simpa using places
  rw [Output.aggregate_eq, Output.walked, clear, found]
  rfl

/-- The builds of a successful execution are the ones its deploys have come back with. -/
theorem exported_builds {repositories : List String} {builds : List Build}
    {exports : Nat → String → Dict Json} (size : builds.length = repositories.length)
    (exporting : ∀ position (_ : position < builds.length) (_ : position < repositories.length),
      builds[position].outputs = exports position repositories[position]) :
    (repositories.zip builds).flatMap (fun entry => entry.2.outputs.entries) =
      exported exports repositories := by
  have alike : (repositories.zip builds).map (fun entry => entry.2.outputs.entries) =
      repositories.zipIdx.map fun entry => (exports entry.2 entry.1).entries := by
    apply List.ext_getElem
    · simp [size]
    · intro position inside _
      simp only [List.length_map, List.length_zip] at inside
      simp [exporting position (by omega) (by omega)]
  rw [exported, List.flatMap_def, List.flatMap_def, alike]

theorem aggregateText_outputJson (reserved : String) {input : PipelineInput}
    {deployed : List (String × Build)}
    (plain : ∀ entry ∈ deployed, ∀ leaf ∈ entry.2.outputs.entries, leaf.2.Plain 100) :
    Output.aggregateText reserved (some (outputJson input deployed).compact) = .ok (Dict.ofList
      (Output.kept reserved (deployed.flatMap fun entry => entry.2.outputs.entries))) := by
  have text := Doc.parse_compact (outputJson_plain input deployed plain)
  have document := @decode_outputJson input deployed plain
  rw [Output.aggregateText, Decoder.readText, text, Option.bind_some, document]
  exact aggregate_elements reserved deployed

/-- What a successful execution hands on is what its deploys have exported, in the order of the
repositories. The order of the deploys and the ids of their builds leave no trace. -/
theorem outputs_agree {execution : ExecutionArn} {input : PipelineInput} {opened : Instant}
    {r : Run} {moves : List Move} (went : Went (start execution input opened) moves r)
    (ended : r.description.status = .succeeded) (exports : Nat → String → Dict Json)
    (exporting : ∀ position repository overrides build,
      .deploy position repository overrides (.ok build) ∈ calls moves →
        build.outputs = exports position repository)
    (plain : ∀ leaf ∈ exported exports input.repositories, leaf.2.Plain 100) (reserved : String) :
    Output.aggregateText reserved r.description.output = .ok (Dict.ofList
      (((exported exports input.repositories).filter (Output.isReserved reserved)).map fun leaf =>
        (kebabCase leaf.1, leaf.2.asText))) := by
  have halted : r.description.status ≠ .running := by
    rw [ended]
    decide
  have concluded := ((pipeline_concluded went).2.2 halted).1
  -- Only the end of the run is split here, not the run itself.
  generalize calls moves = asked at exporting concluded
  generalize r.description = d at ended concluded
  cases concluded with
  | packageFailed _ _ _ failed | deployFailed _ _ _ _ _ _ failed =>
      rw [failed.status] at ended
      cases ended
  | @succeeded _ _ _ builds _ _ _ _ size each achieved =>
      -- The deploys came back in some order; each build still stands at its repository's place.
      have whole := exported_builds size fun position built inside => by
        refine exporting position _ (buildVariables input.parameters) _ ?_
        apply List.mem_append_right
        apply each.mem_iff.mpr
        exact List.mem_mapIdx.mpr ⟨position, by simp [size, inside], by simp [MapStage.deploying]⟩
      have plain' : ∀ entry ∈ input.repositories.zip builds,
          ∀ leaf ∈ entry.2.outputs.entries, leaf.2.Plain 100 := by
        intro entry member leaf inside
        apply plain
        rw [← whole]
        exact List.mem_flatMap.mpr ⟨entry, member, inside⟩
      rw [achieved.output, aggregateText_outputJson reserved plain', whole]
      rfl

namespace Sample

def webOutputs : Dict Json :=
  Dict.ofList [("bawsPort", .int 8080), ("bawsShared", .string "web")]

def dbOutputs : Dict Json := Dict.ofList [("Engine", .null), ("bawsShared", .string "db")]

def sampleExports (_ : Nat) (repository : String) : Dict Json :=
  if repository = "web" then webOutputs else dbOutputs

/-- The second repository is deployed first. -/
def deploying : List Step := [.write, .wake, .write, .write, .write,
  .beginPackage 0, .beginPackage 1, .endPackage 0 (.ok ()), .endPackage 1 (.ok ()), .leave,
  .write, .write, .beginDeploy 0, .beginDeploy 1, .endDeploy 1 (.ok ⟨"db:1", dbOutputs⟩),
  .endDeploy 0 (.ok ⟨"web:2", webOutputs⟩), .leave, .write, .write, .wake, .write, .write, .stop]

def deployed : Option (List Move × Run) := follow .epoch (start execution input .epoch) deploying

end Sample

theorem sample_outputs_agree :
    ∃ moves r, Went (start Sample.execution Sample.input .epoch) moves r ∧
      r.description.status = .succeeded ∧
      Output.aggregateText "baws" r.description.output =
        .ok (Dict.ofList [("baws-port", "8080"), ("baws-shared", "db")]) := by
  obtain ⟨⟨moves, r⟩, here⟩ := Option.isSome_iff_exists.mp (rfl : Sample.deployed.isSome = true)
  have went := follow_went here
  have status : Sample.deployed.map (fun found => found.2.description.status) =
      some .succeeded := rfl
  have asks : Sample.deployed.map (fun found => calls found.1) = some [.package 0 "web" (.ok ()),
      .package 1 "db" (.ok ()), .deploy 1 "db" [] (.ok ⟨"db:1", Sample.dbOutputs⟩),
      .deploy 0 "web" [] (.ok ⟨"web:2", Sample.webOutputs⟩)] := rfl
  rw [here] at asks status
  have ended : r.description.status = .succeeded := Option.some.inj status
  have made := Option.some.inj asks
  refine ⟨moves, r, went, ended, ?_⟩
  have agree := outputs_agree went ended Sample.sampleExports ?_ ?_ "baws"
  · rw [agree]
    rfl
  · intro position repository overrides build member
    simp only at made
    rw [made] at member
    simp at member
    rcases member with ⟨rfl, rfl, rfl, rfl⟩ | ⟨rfl, rfl, rfl, rfl⟩ <;> rfl
  · have whole : exported Sample.sampleExports Sample.input.repositories =
        [("bawsPort", .int 8080), ("bawsShared", .string "web"), ("Engine", .null),
          ("bawsShared", .string "db")] := rfl
    intro leaf member
    rw [whole] at member
    simp only [List.mem_cons, List.not_mem_nil, or_false] at member
    rcases member with rfl | rfl | rfl | rfl
    · exact .int 8080 (by decide) (by decide)
    · exact .string "web"
    · exact .null
    · exact .string "db"

end Run

end Local

end Rollout
