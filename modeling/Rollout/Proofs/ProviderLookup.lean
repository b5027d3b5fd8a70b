import Rollout.Proofs.CatalogEntities
import Rollout.Proofs.Runs

/-!
The look-up of an environment's providers, as a dialogue with the catalog. The environment is
asked for first, then the entities it depends on, if there are any. An answer that cannot be
used is an error; no way leads to fewer providers than the catalog lists.
-/

namespace Rollout

/-- A request as a question of its own. -/
def Http.Request.ask (sent : Http.Request) :
    Dialogue Http.Request (fun _ => Http.Reply) Http.Reply := .ask sent .done

namespace Catalog

open Http (Request Reply Url)

/-- What comes of an answer: the value its content means, or an error of the transport. -/
inductive Answered {α : Type} (means : Meaning α) (method url : String) (sent : Request) :
    Reply → Except CatalogError α → Prop
  | value {status : Nat} {body : String} {value : α} (success : Http.isSuccess status = true)
      (meant : means.Text (Http.contentOf status body) value) :
      Answered means method url sent (.answered status body) (.ok value)
  | unreachable : Answered means method url sent .unreachable
      (.error (.transport ("error sending request for url (" ++ sent.url.text ++ ")")))
  | unsuccessful {status : Nat} (body : String) (refused : Http.isSuccess status = false) :
      Answered means method url sent (.answered status body)
        (.error (.transport (method ++ " " ++ url ++ " returned " ++ Http.statusText status)))
  | unreadable {status : Nat} {body : String} (success : Http.isSuccess status = true)
      (meaningless : ∀ value, ¬ means.Text (Http.contentOf status body) value) :
      Answered means method url sent (.answered status body)
        (.error (.transport ("error decoding response body for url (" ++ sent.url.text ++ ")")))

section Answers

variable {α : Type} {means : Meaning α} {item : Decoder α} {method url : String} {sent : Request}
  {reply : Reply}

theorem answered_iff (reads : item.Reads means) {result : Except CatalogError α} :
    Answered means method url sent reply result ↔
      Portal.readBody item method url sent reply = result := by
  constructor
  · rintro (⟨success, meant⟩ | _ | ⟨body, refused⟩ | ⟨success, meaningless⟩)
    · have read := (Decoder.readText_iff reads).mpr meant
      simp [Portal.readBody, success, read]
    · rfl
    · simp [Portal.readBody, refused, Portal.unsuccessful]
    · have unread := (Decoder.readText_none_iff reads).mpr meaningless
      simp [Portal.readBody, success, unread, Portal.unreadable]
  · rintro rfl
    unfold Portal.readBody
    cases reply with
    | unreachable => exact .unreachable
    | answered status body =>
        cases success : Http.isSuccess status with
        | false => simpa [success] using .unsuccessful body success
        | true =>
            cases read : item.readText (Http.contentOf status body) with
            | none =>
                simpa [success, read] using
                  .unreadable success ((Decoder.readText_none_iff reads).mp read)
            | some value =>
                simpa [success, read] using .value success ((Decoder.readText_iff reads).mp read)

end Answers

/-- The requests that were sent and how they were answered. -/
abbrev Traffic := List (Exchange Request fun _ => Reply)

namespace Portal

variable {p : Portal} {environment : EntityRef}

/-- The request as it is sent: with the token, if there is one, and the body unchanged. -/
structure Sends (p : Portal) (method url body : String) (sent : Request) : Prop where
  method : sent.method = method
  url : Url.parse? url = some sent.url
  allowed : ∀ token, p.token = some token → token.toList.all Http.headerAllows = true
  authorization : sent.authorization =
    p.token.map fun token => Http.headerValue ("Bearer " ++ token)
  body : sent.body = body

theorem request_ok {method url body : String} {sent : Request} :
    p.request method url body = .ok sent ↔ p.Sends method url body sent := by
  constructor
  · intro built
    unfold request at built
    split at built
    · cases built
    · rename_i parsed
      split at built
      · rename_i token
        cases built
        exact ⟨rfl, parsed, by simp [token], by simp [token], rfl⟩
      · rename_i token
        split at built
        · rename_i allowed
          cases built
          exact ⟨rfl, parsed, by simpa [token] using allowed, by simp [token], rfl⟩
        · cases built
  · obtain ⟨method', url', authorization, body'⟩ := sent
    rintro ⟨rfl, parsed, allowed, rfl, rfl⟩
    unfold request
    cases token : p.token with
    | none => simp [parsed]
    | some token => simp [parsed, allowed _ token]

theorem request_error {method url body : String} {e : CatalogError}
    (failed : p.request method url body = .error e) : e = unbuildable := by
  unfold request at failed
  split at failed
  · cases failed
    rfl
  · split at failed
    · cases failed
    · split at failed
      · cases failed
      · cases failed
        rfl

/-- One exchange with the catalog; there is none if the request cannot be built. -/
inductive Exchanged {α : Type} (p : Portal) (method url body : String)
    (result : Request → Reply → Except CatalogError α → Prop) :
    Traffic → Except CatalogError α → Prop
  | unsent (unbuildable : ∀ sent, ¬ p.Sends method url body sent) :
      Exchanged p method url body result [] (.error (.transport "builder error"))
  | sent {sent : Request} {reply : Reply} {value : Except CatalogError α}
      (sends : p.Sends method url body sent) (answered : result sent reply value) :
      Exchanged p method url body result [⟨sent, reply⟩] value

/-- What comes of the answer about the environment; only here it can be unknown. -/
inductive EntityAnswered (p : Portal) (environment : EntityRef) (sent : Request) :
    Reply → Except CatalogError Entity → Prop
  | unknown (body : String) : EntityAnswered p environment sent (.answered 404 body)
      (.error (.environmentNotFound environment.text))
  | known {reply : Reply} {value : Except CatalogError Entity}
      (found : ∀ body, reply ≠ .answered 404 body)
      (answered : Answered Entity.Written "GET" (p.entityUrl environment) sent reply value) :
      EntityAnswered p environment sent reply value

/-- The exchange about the environment itself. -/
def EntityFetched (p : Portal) (environment : EntityRef) :
    Traffic → Except CatalogError Entity → Prop :=
  p.Exchanged "GET" (p.entityUrl environment) "" (p.EntityAnswered environment)

/-- The exchange about the entities of such references. -/
def ItemsFetched (p : Portal) (refs : List String) :
    Traffic → Except CatalogError (List Entity) → Prop :=
  p.Exchanged "POST" p.refsUrl (refsBody refs).compact
    (Answered Entity.WrittenItems "POST" p.refsUrl)

/-- The ways on from a known environment. Items are asked for by its targets, and every complete
one makes a provider. -/
inductive Followed (p : Portal) (environment : EntityRef) (e : Entity) :
    Traffic → Except CatalogError (List Provider) → Prop
  | lonely (alone : e.targets = []) : Followed p environment e [] (.ok [])
  | unlisted {traffic : Traffic} {error : CatalogError} (targets : e.targets ≠ [])
      (failed : p.ItemsFetched e.targets traffic (.error error)) :
      Followed p environment e traffic (.error error)
  | listed {traffic : Traffic} {items : List Entity} {name : String} {providers : List Provider}
      (targets : e.targets ≠ []) (fetched : p.ItemsFetched e.targets traffic (.ok items))
      (named : e.Named environment name)
      (stand : List.Forall₂ (Entity.StandsFor name) (items.filter Entity.Complete) providers) :
      Followed p environment e traffic (.ok providers)

/-- The ways a look-up can go. -/
inductive Looked (p : Portal) (environment : EntityRef) :
    Traffic → Except CatalogError (List Provider) → Prop
  | unknown {traffic : Traffic} {error : CatalogError}
      (failed : p.EntityFetched environment traffic (.error error)) :
      Looked p environment traffic (.error error)
  | known {first second : Traffic} {e : Entity} {result : Except CatalogError (List Provider)}
      (fetched : p.EntityFetched environment first (.ok e))
      (followed : p.Followed environment e second result) :
      Looked p environment (first ++ second) result

/-- The look-up, with whoever answers its requests left open. -/
def lookup (p : Portal) (environment : EntityRef) :
    Dialogue Request (fun _ => Reply) (Except CatalogError (List Provider)) :=
  p.providers Request.ask environment

section Exchange

variable {α : Type} {method url body : String} {read : Request → Reply → Except CatalogError α}

/-- A request, and what is made of its answer. -/
def exchange {m : Type → Type} [Monad m] (send : Request → m Reply) (p : Portal)
    (method url body : String) (read : Request → Reply → Except CatalogError α) :
    m (Except CatalogError α) :=
  match p.request method url body with
  | .error e => pure (.error e)
  | .ok sent => do return read sent (← send sent)

theorem exchange_ran {result : Request → Reply → Except CatalogError α → Prop}
    (reads : ∀ sent reply value, result sent reply value ↔ read sent reply = value)
    {traffic : Traffic} {outcome : Option (Except CatalogError α)} :
    (p.exchange Request.ask method url body read).Ran traffic outcome ↔
      ∃ value, outcome = some value ∧ p.Exchanged method url body result traffic value := by
  unfold exchange
  -- Whether there is an exchange at all is settled before anything is sent.
  cases built : p.request method url body with
  | error e =>
      have unbuilt (sent : Request) : ¬ p.Sends method url body sent := fun sends => by
        cases built.symm.trans (request_ok.mpr sends)
      obtain rfl := request_error built
      refine Dialogue.ran_done.trans ⟨?_, ?_⟩
      · rintro ⟨rfl, rfl⟩
        exact ⟨_, rfl, .unsent unbuilt⟩
      · rintro ⟨_, rfl, _ | ⟨sends, _⟩⟩
        · exact ⟨rfl, rfl⟩
        · exact absurd sends (unbuilt _)
  | ok sent =>
      have sends := request_ok.mp built
      refine Dialogue.ran_ask.trans ⟨?_, ?_⟩
      · rintro ⟨reply, _, rfl, ended⟩
        obtain ⟨rfl, rfl⟩ := Dialogue.ran_done.mp ended
        exact ⟨_, rfl, .sent sends ((reads ..).mpr rfl)⟩
      · rintro ⟨_, rfl, unbuilt | ⟨sends', answered⟩⟩
        · exact absurd sends (unbuilt _)
        · obtain rfl := Except.ok.inj (built.symm.trans (request_ok.mpr sends'))
          obtain rfl := (reads ..).mp answered
          exact ⟨_, [], rfl, .done _⟩

variable {m : Type → Type} [Monad m] {send : Request → m Reply}

theorem fetchEntity_eq : p.fetchEntity send environment =
    p.exchange send "GET" (p.entityUrl environment) "" (p.readEntity environment) := by
  unfold fetchEntity exchange
  cases p.request "GET" (p.entityUrl environment) "" <;> rfl

theorem fetchItems_eq {refs : List String} : p.fetchItems send refs =
    p.exchange send "POST" p.refsUrl (refsBody refs).compact
      (readBody Entity.decodeItems "POST" p.refsUrl) := by
  unfold fetchItems exchange
  cases p.request "POST" p.refsUrl (refsBody refs).compact <;> rfl

theorem run_exchange [LawfulMonad m] :
    (p.exchange Request.ask method url body read).run send =
      some <$> p.exchange send method url body read := by
  unfold exchange
  cases p.request method url body with
  | error e => exact (map_pure some (Except.error e)).symm
  | ok sent =>
      rw [map_bind]
      exact bind_congr fun reply => (map_pure some _).symm

/-- Whoever answers the requests, the program does what the look-up does with these answers. -/
theorem run_lookup [LawfulMonad m] :
    (p.lookup environment).run send = some <$> p.providers send environment := by
  unfold lookup providers
  rw [Dialogue.bind_monad, Dialogue.run_bind, fetchEntity_eq, run_exchange, bind_map_left,
    fetchEntity_eq, map_bind]
  refine bind_congr fun fetched => ?_
  cases fetched with
  | error e => exact (map_pure some _).symm
  | ok e =>
      dsimp only
      split
      · exact (map_pure some _).symm
      · rw [Dialogue.bind_monad, Dialogue.run_bind, fetchItems_eq, run_exchange, bind_map_left,
          fetchItems_eq, map_bind]
        exact bind_congr fun items => (map_pure some _).symm

end Exchange

theorem entityAnswered_iff {sent : Request} {reply : Reply} {value : Except CatalogError Entity} :
    p.EntityAnswered environment sent reply value ↔
      p.readEntity environment sent reply = value := by
  constructor
  · rintro (_ | ⟨found, answered⟩)
    · rfl
    · rw [← (answered_iff Entity.decode_reads).mp answered, readEntity]
      exact found
  · intro read
    unfold readEntity at read
    split at read
    · cases read
      exact .unknown _
    · rename_i found
      exact .known found ((answered_iff Entity.decode_reads).mpr read)

theorem fetchEntity_ran {traffic : Traffic} {outcome : Option (Except CatalogError Entity)} :
    (p.fetchEntity Request.ask environment).Ran traffic outcome ↔
      ∃ value, outcome = some value ∧ p.EntityFetched environment traffic value := by
  rw [fetchEntity_eq]
  apply exchange_ran
  intro _ _ _
  exact entityAnswered_iff

theorem fetchItems_ran {refs : List String} {traffic : Traffic}
    {outcome : Option (Except CatalogError (List Entity))} :
    (p.fetchItems Request.ask refs).Ran traffic outcome ↔
      ∃ value, outcome = some value ∧ p.ItemsFetched refs traffic value := by
  rw [fetchItems_eq]
  apply exchange_ran
  intro _ _ _
  exact answered_iff Entity.decodeItems_reads

theorem follow_ran {e : Entity} {traffic : Traffic}
    {outcome : Option (Except CatalogError (List Provider))} :
    Dialogue.Ran (if e.providerRefs.isEmpty then .done (.ok [])
      else (p.fetchItems Request.ask e.providerRefs).bind fun items =>
        .done (items.map (providersOf environment e))) traffic outcome ↔
      ∃ result, outcome = some result ∧ p.Followed environment e traffic result := by
  simp only [Entity.providerRefs_eq, List.isEmpty_iff]
  -- Without targets nothing is asked any more; with some, the answer decides.
  split
  · rename_i alone
    rw [Dialogue.ran_done]
    constructor
    · rintro ⟨rfl, rfl⟩
      exact ⟨_, rfl, .lonely alone⟩
    · rintro ⟨_, rfl, _ | ⟨targets, _⟩ | ⟨targets, _⟩⟩
      · exact ⟨rfl, rfl⟩
      · exact absurd alone targets
      · exact absurd alone targets
  · rename_i targets
    simp only [Dialogue.ran_bind, Dialogue.ran_done, fetchItems_ran, reduceCtorEq, false_and,
      exists_false, false_or, Option.some.injEq, exists_eq_left']
    constructor
    · rintro ⟨_, _, fetched, rfl, ran, rfl, rfl⟩
      rw [List.append_nil]
      cases fetched with
      | error e => exact ⟨_, rfl, .unlisted targets ran⟩
      | ok items =>
          exact ⟨_, rfl, .listed targets ran (Entity.named_iff.mpr rfl)
            (Entity.providers_iff.mpr rfl)⟩
    · rintro ⟨_, rfl, alone | ⟨_, failed⟩ | ⟨_, fetched, named, stand⟩⟩
      · exact absurd alone targets
      · exact ⟨_, [], _, (List.append_nil _).symm, failed, rfl, rfl⟩
      · refine ⟨_, [], _, (List.append_nil _).symm, fetched, rfl, ?_⟩
        rw [← Entity.named_iff.mp named] at stand
        rw [← Entity.providers_iff.mp stand]
        rfl

/-- A look-up goes one of these ways, and no other, whatever the catalog answers. -/
theorem lookup_ran {traffic : Traffic} {outcome : Option (Except CatalogError (List Provider))} :
    (p.lookup environment).Ran traffic outcome ↔
      ∃ result, outcome = some result ∧ p.Looked environment traffic result := by
  unfold lookup providers
  rw [Dialogue.bind_monad, Dialogue.ran_bind]
  simp only [fetchEntity_ran, reduceCtorEq, false_and, exists_false, false_or,
    Option.some.injEq, exists_eq_left']
  constructor
  · rintro ⟨first, second, fetched, rfl, ran, following⟩
    cases fetched with
    | error e =>
        obtain ⟨rfl, rfl⟩ := Dialogue.ran_done.mp following
        rw [List.append_nil]
        exact ⟨_, rfl, .unknown ran⟩
    | ok e =>
        obtain ⟨result, rfl, followed⟩ := follow_ran.mp following
        exact ⟨result, rfl, .known ran followed⟩
  · rintro ⟨result, rfl, failed | ⟨fetched, followed⟩⟩
    · exact ⟨_, [], _, (List.append_nil _).symm, failed, .done _⟩
    · exact ⟨_, _, _, rfl, fetched, follow_ran.mpr ⟨_, rfl, followed⟩⟩

/-- The body of the second request is read as the very list it was made of. -/
theorem refsBody_parse (refs : List String) : Json.parse (refsBody refs).compact =
    some (.object [("entityRefs", .array (refs.map .string))]) := by
  have plain : (refsBody refs).Plain 2 :=
    Json.plain_field "entityRefs" (Json.plain_map .string fun ref _ => .string ref)
  exact (Decoder.returns_json plain).readText (by decide)

/-- The providers of an environment, whoever sends the requests: they are looked up in one of
these ways and in no other, whatever the catalog answers. -/
theorem providers_looked_up (p : Portal) (environment : EntityRef) :
    (∀ (m : Type → Type) [Monad m] [LawfulMonad m] (send : Request → m Reply),
      (p.lookup environment).run send = some <$> p.providers send environment) ∧
    (∀ refs, Json.parse (refsBody refs).compact =
      some (.object [("entityRefs", .array (refs.map .string))])) ∧
    ∀ traffic outcome, (p.lookup environment).Ran traffic outcome ↔
      ∃ result, outcome = some result ∧ p.Looked environment traffic result :=
  ⟨fun _ _ _ _ => run_lookup, refsBody_parse, fun _ _ => lookup_ran⟩

namespace Sample

def portal : Portal := ⟨"http://portal", none⟩

def reference : EntityRef := ⟨"awsenvironment", "default", "dev"⟩

def entityJson : Json := .object [
  ("metadata", .object []),
  ("relations", .array [.object [("type", .string "dependencyOf"),
    ("targetRef", .string "awsenvironmentprovider:default/east")]])]

/-- Of a network either the entry is missing, or its value, or nothing. -/
def network : Option Bool → Option Json
  | none => none
  | some false => some .null
  | some true => some (.string "/vpc")

def entries (known : Option Bool) : List (String × Json) :=
  Json.optional "vpc" (network known) ++ [
    ("name", .string "east"), ("aws-account", .int 12), ("aws-region", .string "us-east-1"),
    ("cluster-name", .string "/cluster")]

def itemsJson (known : Option Bool) : Json := .object [("items", .array [
  .null, .object [("metadata", .object (entries known))]])]

def asked : Request :=
  ⟨"GET", ⟨"http://portal", "/api/catalog/entities/by-name/awsenvironment/default/dev", none, none⟩,
    none, ""⟩

def askedItems : Request :=
  ⟨"POST", ⟨"http://portal", "/api/catalog/entities/by-refs", none, none⟩, none,
    (refsBody ["awsenvironmentprovider:default/east"]).compact⟩

def traffic (known : Option Bool) : Traffic := [
  ⟨asked, .answered 200 entityJson.compact⟩, ⟨askedItems, .answered 200 (itemsJson known).compact⟩]

def entity : Entity :=
  ⟨∅, [⟨"dependencyOf", "awsenvironmentprovider:default/east"⟩]⟩

def item (known : Option Bool) : Entity := ⟨Dict.ofList (entries known), []⟩

def providers (known : Option Bool) : List Provider := (network known).toList.map fun vpc =>
  ⟨"12", "us-east-1", vpc.asText, "/cluster", "dev", "east"⟩

theorem entityJson_plain : entityJson.Plain Doc.deepest := by
  have relation : Json.Plain 1 (.object [("type", .string "dependencyOf"),
      ("targetRef", .string "awsenvironmentprovider:default/east")]) := by
    refine .object (by decide) ?_
    simp only [List.forall_mem_cons, List.not_mem_nil, false_implies, implies_true, and_true]
    exact ⟨.string _, .string _⟩
  refine .object (by decide) ?_
  simp only [List.forall_mem_cons, List.not_mem_nil, false_implies, implies_true, and_true]
  refine ⟨.object (by decide) (by simp), .array ?_⟩
  rw [List.forall_mem_singleton]
  exact relation.mono (by decide)

theorem itemsJson_plain (known : Option Bool) : (itemsJson known).Plain Doc.deepest := by
  have vpc : ∀ field ∈ Json.optional "vpc" (network known), field.2.Plain 1 := by
    obtain _ | _ | _ := known
    · simp [network, Json.optional]
    · simpa [network, Json.optional] using Json.Plain.null
    · simpa [network, Json.optional] using Json.Plain.string "/vpc"
  have others : ∀ field ∈ entries known, field.2.Plain 1 := by
    refine List.forall_mem_append.mpr ⟨vpc, ?_⟩
    simp only [List.forall_mem_cons, List.not_mem_nil, false_implies, implies_true, and_true]
    exact ⟨.string _, .int 12 (by decide) (by decide), .string _, .string _⟩
  have distinct : ((entries known).map Prod.fst).Nodup := by
    obtain _ | _ | _ := known <;> decide
  have items : Json.Plain 4 (.array [.null, .object [("metadata", .object (entries known))]]) := by
    apply Json.Plain.array
    simp only [List.forall_mem_cons, List.not_mem_nil, false_implies, implies_true, and_true]
    exact ⟨.null, Json.plain_field "metadata" (.object distinct others)⟩
  exact (Json.plain_field "items" items).mono (by decide)

theorem entity_meant : Entity.Written.Text entityJson.compact entity := by
  rw [← Decoder.readText_iff Entity.decode_reads, Decoder.readText,
    Doc.parse_compact entityJson_plain]
  rfl

theorem items_meant (known : Option Bool) :
    Entity.WrittenItems.Text (itemsJson known).compact [item known] := by
  rw [← Decoder.readText_iff Entity.decodeItems_reads, Decoder.readText,
    Doc.parse_compact (itemsJson_plain known)]
  obtain _ | _ | _ := known <;> rfl

theorem sends : portal.Sends "GET" (portal.entityUrl reference) "" asked :=
  request_ok.mp (by decide +kernel)

theorem sendsItems :
    portal.Sends "POST" portal.refsUrl (refsBody entity.targets).compact askedItems :=
  request_ok.mp (by decide +kernel)

theorem looked (known : Option Bool) :
    portal.Looked reference (traffic known) (.ok (providers known)) := by
  have first : portal.EntityFetched reference [⟨asked, .answered 200 entityJson.compact⟩]
      (.ok entity) := .sent sends (.known (by rintro _ ⟨⟩) (.value rfl entity_meant))
  have second : portal.ItemsFetched entity.targets
      [⟨askedItems, .answered 200 (itemsJson known).compact⟩] (.ok [item known]) :=
    .sent sendsItems (.value rfl (items_meant known))
  refine .known first (.listed (by decide) second (.asked rfl) ?_)
  exact Entity.providers_iff.mpr (by obtain _ | _ | _ := known <;> decide)

end Sample

theorem sample_providers_looked_up :
    Id.run ((Sample.portal.lookup Sample.reference).run fun _ => .unreachable) =
      some (.error (unreachable Sample.asked.url)) ∧
    (Sample.portal.lookup Sample.reference).Ran (Sample.traffic (some true))
      (some (.ok [⟨"12", "us-east-1", "/vpc", "/cluster", "dev", "east"⟩])) := by
  obtain ⟨runs, -, ways⟩ := providers_looked_up Sample.portal Sample.reference
  constructor
  · have failed : Id.run (Sample.portal.providers (fun _ => .unreachable) Sample.reference) =
        .error (unreachable Sample.asked.url) := by decide +kernel
    rw [runs Id, Id.run_map, failed]
  · exact (ways _ _).mpr ⟨_, rfl, Sample.looked (some true)⟩

end Portal

end Catalog

end Rollout
