import Rollout.Local.World
import Rollout.Proofs.MappedRoles
import Rollout.Proofs.Placeholders

/-!
What is read from the parameters kept in memory, after whatever was put and arranged to fail. The
account's own newest value counts, even an empty one, and only without one the newest value that is
shared; what was put for other accounts or at other paths is never seen.
-/

namespace Rollout.Local

namespace ParameterStore

inductive Operation where
  | put (account path value : String)
  /-- Puts a value that every account sees. -/
  | share (path value : String)
  | fail (path : String)
  deriving DecidableEq, Repr

def perform (s : ParameterStore) : Operation → ParameterStore
  | .put account path value => s.put account path value
  | .share path value => s.putShared path value
  | .fail path => s.failPath path

def ofOperations (operations : List Operation) : ParameterStore := operations.foldl perform {}

namespace Operation

/-- The value an operation puts for an account at a path. -/
def value? (account path : String) : Operation → Option String
  | .put account' path' value => if account' = account ∧ path' = path then some value else none
  | .share path' value => if everyAccount = account ∧ path' = path then some value else none
  | .fail _ => none

/-- It puts a value the account can see at the path, or makes the path fail. -/
def concerns (account path : String) : Operation → Bool
  | .put account' path' _ => (account' = account || account' = everyAccount) && path' = path
  | .share path' _ => path' = path
  | .fail path' => path' = path

end Operation

/-- The values put for an account at a path, the oldest first. -/
def given (operations : List Operation) (account path : String) : List String :=
  operations.filterMap (·.value? account path)

variable {operations : List Operation} {account path : String}

theorem lookup_perform (s : ParameterStore) (operation : Operation) :
    (s.perform operation).values.lookup (account, path) =
      (operation.value? account path).or (s.values.lookup (account, path)) := by
  have key (account' path' value : String) :
      (((account', path'), value) :: s.values).lookup (account, path) =
        (if account' = account ∧ path' = path then some value else none).or
          (s.values.lookup (account, path)) := by
    by_cases same : account' = account ∧ path' = path
    · obtain ⟨rfl, rfl⟩ := same
      simp
    · have apart : ((account, path) == (account', path')) = false := by
        rw [beq_eq_false_iff_ne]
        rintro ⟨⟩
        exact same ⟨rfl, rfl⟩
      simp [List.lookup_cons, apart, same]
  cases operation with
  | put account' path' value => exact key account' path' value
  | share path' value => exact key everyAccount path' value
  | fail path' => rfl

theorem lookup_foldl (s : ParameterStore) :
    (operations.foldl perform s).values.lookup (account, path) =
      (given operations account path).getLast?.or (s.values.lookup (account, path)) := by
  induction operations generalizing s with
  | nil => rfl
  | cons operation rest ih =>
      rw [List.foldl_cons, ih, lookup_perform, given, given, List.filterMap_cons]
      cases operation.value? account path with
      | none => rfl
      | some value =>
          generalize rest.filterMap (·.value? account path) = later
          rw [List.getLast?_cons]
          cases later.getLast? <;> rfl

/-- The newest value of a key is the last one that was put. -/
theorem lookup_ofOperations : (ofOperations operations).values.lookup (account, path) =
    (given operations account path).getLast? := by
  rw [ofOperations, lookup_foldl]
  exact Option.or_none

theorem mem_failing_foldl (s : ParameterStore) :
    path ∈ (operations.foldl perform s).failing ↔ .fail path ∈ operations ∨ path ∈ s.failing := by
  induction operations generalizing s with
  | nil => simp
  | cons operation rest ih =>
      rw [List.foldl_cons, ih]
      cases operation with
      | put account' path' value => simp [perform, put]
      | share path' value => simp [perform, putShared, put]
      | fail path' => simp [perform, failPath, or_assoc, or_left_comm]

theorem mem_failing : path ∈ (ofOperations operations).failing ↔ .fail path ∈ operations := by
  simp [ofOperations, mem_failing_foldl]

theorem get_ofOperations (account : AccountId) :
    (ofOperations operations).get account path =
      if .fail path ∈ operations then .error (.transport path failure)
      else .ok ((given operations account.text path).getLast?.or
        (given operations everyAccount path).getLast?) := by
  simp [get, mem_failing, lookup_ofOperations]

/-- Nothing but what concerns an account and a path puts a value there, for it or for all. -/
theorem given_concerns {reader : String} (seen : reader = account ∨ reader = everyAccount) :
    given (operations.filter (·.concerns account path)) reader path =
      given operations reader path := by
  rw [given, given, List.filterMap_filter]
  congr 1
  funext operation
  rw [ite_eq_left_iff]
  intro apart
  symm
  cases operation with
  | put account' path' value =>
      simp only [Operation.value?, Operation.concerns] at apart ⊢
      rw [if_neg]
      rintro ⟨rfl, rfl⟩
      rcases seen with rfl | rfl <;> simp at apart
  | share path' value =>
      simp only [Operation.value?, Operation.concerns, decide_eq_true_eq] at apart ⊢
      exact if_neg fun same => apart same.2
  | fail path' => rfl

/-- Operations that concern an account and a path alike are told apart by no read there. -/
theorem get_concerns {others : List Operation} {account : AccountId}
    (alike : others.filter (·.concerns account.text path) =
      operations.filter (·.concerns account.text path)) :
    (ofOperations others).get account path = (ofOperations operations).get account path := by
  have failing : .fail path ∈ others ↔ .fail path ∈ operations := by
    have member := congrArg (Operation.fail path ∈ ·) alike
    simpa [Operation.concerns] using member
  have own : given others account.text path = given operations account.text path := by
    rw [← given_concerns (Or.inl rfl), alike, given_concerns (Or.inl rfl)]
  have shared : given others everyAccount path = given operations everyAccount path := by
    rw [← given_concerns (Or.inr rfl), alike, given_concerns (Or.inr rfl)]
  simp only [get_ofOperations, failing, own, shared]

end ParameterStore

open ParameterStore

/-- What the resolver makes of the answer at a path. -/
def settled (path : String) : Except ParameterError (Option String) → Except ParameterError String
  | .error e => .error e
  | .ok found => if found.getD "" = "" then .error (.notFound path) else .ok (found.getD "")

theorem World.run_readParameter_get (w : World) (grant : Grant) (path : String) :
    w.run (readParameter grant path) =
      (some (settled path (w.parameters.get grant.account path)), w) := by
  have answer : w.answer (.parameter grant path) = (w.parameters.get grant.account path, w) := rfl
  change w.run (.ask (.parameter grant path) _) = _
  rw [World.run_ask, answer]
  match w.parameters.get grant.account path with
  | .error e => rfl
  | .ok none => rfl
  | .ok (some value) =>
      by_cases empty : value = ""
      · subst empty
        rfl
      · have filled : value.isEmpty = false := by simpa using empty
        change (some (if value.isEmpty then _ else _), w) = _
        simp [settled, empty, filled]

/-- The value that counts for an account: its own newest, or the newest shared one without it. -/
def Counts (operations : List Operation) (account path value : String) : Prop :=
  (given operations account path).getLast? = some value ∨
    given operations account path = [] ∧
      (given operations everyAccount path).getLast? = some value

/-- What a grant for the account reads at a path after some operations. -/
structure Scoped (operations : List Operation) (account path : String)
    (answer : Except ParameterError String) : Prop where
  failed : .fail path ∈ operations → answer = .error (.transport path ParameterStore.failure)
  failed_only : (∃ path' reason, answer = .error (.transport path' reason)) →
    .fail path ∈ operations
  found : ∀ value, answer = .ok value ↔
    .fail path ∉ operations ∧ value ≠ "" ∧ Counts operations account path value
  missing : answer = .error (.notFound path) ↔
    .fail path ∉ operations ∧ ∀ value, Counts operations account path value → value = ""

theorem counts_iff {operations : List Operation} {account path value : String} :
    Counts operations account path value ↔
      (given operations account path).getLast?.or
        (given operations everyAccount path).getLast? = some value := by
  rw [Option.or_eq_some_iff, List.getLast?_eq_none_iff, Counts]

theorem scoped_get (operations : List Operation) (account : AccountId) (path : String) :
    Scoped operations account.text path
      (settled path ((ofOperations operations).get account path)) := by
  rw [get_ofOperations]
  by_cases failing : .fail path ∈ operations
  · simp only [if_pos failing, settled]
    exact ⟨fun _ => rfl, fun _ => failing, by simp [failing], by simp [failing]⟩
  · simp only [if_neg failing, settled]
    generalize counted : (given operations account.text path).getLast?.or
      (given operations everyAccount path).getLast? = found
    have counts (value : String) : Counts operations account.text path value ↔ found = some value :=
      counted ▸ counts_iff
    cases found with
    | none => exact ⟨by simp [failing], by simp, by simp [counts], by simp [counts, failing]⟩
    | some value =>
        by_cases empty : value = ""
        · subst empty
          exact ⟨by simp [failing], by simp, by simp +contextual [counts, eq_comm],
            by simp +contextual [counts, failing, eq_comm]⟩
        · simp only [Option.getD_some, if_neg empty]
          refine ⟨by simp [failing], by simp, fun other => ?_, by simp [empty, counts, failing]⟩
          rw [counts, Except.ok.injEq, Option.some.injEq]
          exact ⟨fun same => ⟨failing, same ▸ empty, same⟩, fun counted => counted.2.2⟩

/-- The path fails if it was made to. Otherwise the account reads the value that counts for it, and
none if that is empty or there is none; what concerns neither account nor path has no part in it. -/
theorem parameters_scoped {text : String} {grant : Grant}
    (parsed : AccountId.parse text = .ok grant.account) (w : World) (operations : List Operation)
    (path : String) :
    grant.account.text ≠ everyAccount ∧
    ∃ answer, { w with parameters := ofOperations operations }.run (readParameter grant path) =
        (some answer, { w with parameters := ofOperations operations }) ∧
      Scoped operations grant.account.text path answer ∧
      ∀ others : List Operation, others.filter (·.concerns grant.account.text path) =
          operations.filter (·.concerns grant.account.text path) →
        ({ w with parameters := ofOperations others }.run (readParameter grant path)).1 =
          some answer := by
  have alone : grant.account.text ≠ everyAccount := by
    intro same
    have long := AccountId.length_of_parse parsed
    rw [same] at long
    exact absurd long (by decide)
  refine ⟨alone, _, World.run_readParameter_get _ grant path, scoped_get .., fun others alike => ?_⟩
  rw [World.run_readParameter_get]
  exact congrArg (fun answer => some (settled path answer)) (get_concerns alike)

namespace Sample

/-- The account's own last value is an empty one; the last path fails. -/
def operations : List ParameterStore.Operation := [
  .put "000011112222" "/vpc" "vpc-1", .share "/vpc" "vpc-0", .put "000011112222" "/vpc" "",
  .put "333344445555" "/cluster" "cluster-1", .share "/cluster" "cluster-0", .fail "/table"]

def stocked : World :=
  { World.ofManifest Manifest.default {} .epoch 0 with parameters := ofOperations operations }

end Sample

/-- An empty value of the account's own hides the shared one, another account's does not. -/
theorem sample_parameters_scoped :
    AccountId.parse " 000011112222" = .ok Federation.Sample.grant.account ∧
    Sample.stocked.run (readParameter Federation.Sample.grant "/vpc") =
      (some (.error (.notFound "/vpc")), Sample.stocked) ∧
    Sample.stocked.run (readParameter Federation.Sample.grant "/cluster") =
      (some (.ok "cluster-0"), Sample.stocked) := by
  have parsed : AccountId.parse " 000011112222" = .ok Federation.Sample.grant.account := rfl
  have reads := parameters_scoped parsed (World.ofManifest Manifest.default {} .epoch 0)
    Sample.operations
  refine ⟨parsed, ?_, ?_⟩
  · obtain ⟨_, answer, run, read, _⟩ := reads "/vpc"
    have hidden : answer = .error (.notFound "/vpc") := by
      refine read.missing.mpr ⟨by decide, fun value counts => ?_⟩
      have own : some "" = some value := counts_iff.mp counts
      exact (Option.some.inj own).symm
    exact hidden ▸ run
  · obtain ⟨_, answer, run, read, _⟩ := reads "/cluster"
    have shared : answer = .ok "cluster-0" :=
      (read.found "cluster-0").mpr ⟨by decide, by decide, Or.inr ⟨by decide, by decide⟩⟩
    exact shared ▸ run

end Rollout.Local
