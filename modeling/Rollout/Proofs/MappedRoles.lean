import Mathlib.Data.List.Forall2
import Rollout.Local.Script
import Rollout.Proofs.CharClasses
import Rollout.Proofs.Federating
import Rollout.Proofs.Placeholders
import Rollout.Proofs.Targets

/-!
Roles by group. Groups are asked for in the order a requester is in them, the one of everybody left
out, up to the first answer that is a role or an error. A table in memory answers with the role that
an account and a group were given last: accounts are of one length, so a key comes from one account
and one group only, whatever stands in the name of a group.
-/

namespace Rollout

open Dialogue

namespace Requester

/-- The word for everybody, each of its letters in one case or the other. -/
def MeansEveryone (group : String) : Prop :=
  List.Forall₂ (fun c letter => c = letter ∨ c = letter.toUpper) group.toList everyone.toList

instance : DecidablePred MeansEveryone := fun group =>
  inferInstanceAs (Decidable (List.Forall₂ _ group.toList everyone.toList))

theorem toLower_eq_iff {c letter : Char} (small : letter.isLower = true) :
    c.toLower = letter ↔ c = letter ∨ c = letter.toUpper := by
  have codes := Text.isLower_iff.mp small
  simp only [← Char.toNat_inj, Text.toNat_toLower, Text.toNat_toUpper, if_pos small,
    Text.isUpper_iff]
  split <;> omega

theorem map_toLower_iff {cs letters : List Char} (small : ∀ c ∈ letters, c.isLower = true) :
    cs.map Char.toLower = letters ↔
      List.Forall₂ (fun c letter => c = letter ∨ c = letter.toUpper) cs letters := by
  induction letters generalizing cs with
  | nil => simp
  | cons letter letters ih =>
      obtain ⟨first, others⟩ := List.forall_mem_cons.mp small
      cases cs with
      | nil => simp
      | cons c cs =>
          rw [List.map_cons, List.cons.injEq, toLower_eq_iff first, ih others, List.forall₂_cons]

theorem equalsIgnoringAsciiCase_everyone {group : String} :
    equalsIgnoringAsciiCase group everyone = true ↔ MeansEveryone group := by
  have small : everyone.toList.all Char.isLower = true := rfl
  have same : everyone.toList.map Char.toLower = everyone.toList := rfl
  rw [equalsIgnoringAsciiCase, beq_iff_eq, ← String.toList_inj, String.toList_map,
    String.toList_map, same]
  exact map_toLower_iff (List.all_eq_true.mp small)

theorem mappableGroups_eq (requester : Requester) :
    requester.mappableGroups = requester.groups.filter fun group => ¬ MeansEveryone group := by
  apply List.filter_congr
  intro group _
  rw [Bool.eq_iff_iff, Bool.not_eq_true', Bool.eq_false_iff, decide_eq_true_eq, ne_eq,
    equalsIgnoringAsciiCase_everyone]

end Requester

namespace Federation

section Runs

variable {account : AccountId} {name : String} {before after groups : List String} {trace : Trace}
  {outcome : Option (Except CredentialError RoleArn)}

/-- Groups without a role are passed by. -/
theorem ran_roleless (ran : (firstMapped account name after).Ran trace outcome) :
    (firstMapped account name (before ++ after)).Ran
      (before.map (roleless account) ++ trace) outcome := by
  induction before with
  | nil => exact ran
  | cons group before ih => exact ran_ask.mpr ⟨.ok none, _, rfl, ih⟩

theorem firstMapped_iff : (firstMapped account name groups).Ran trace outcome ↔
    ∃ result, outcome = some result ∧ Searched account name groups trace result := by
  constructor
  · exact firstMapped_ran
  · rintro ⟨_, rfl, searched⟩
    cases searched with
    | found split =>
        rw [split]
        exact ran_roleless (ran_ask.mpr ⟨.ok (some _), _, rfl, .done _⟩)
    | failed split =>
        rw [split]
        exact ran_roleless (ran_ask.mpr ⟨.error _, _, rfl, .done _⟩)
    | exhausted =>
        have ended : (firstMapped account name []).Ran []
            (some (.error (.noRoleMapping account.text name))) := .done _
        have ran := @ran_roleless account name groups [] [] _ ended
        rwa [List.append_nil, List.append_nil] at ran

end Runs

end Federation

/-- Accounts of one length stand apart from the groups behind them. -/
theorem mappingKey_inj {account account' : AccountId} {group group' : String}
    (long : account.text.length = account'.text.length) :
    mappingKey account group = mappingKey account' group' ↔
      account = account' ∧ group = group' := by
  constructor
  · intro same
    have same' : account.text.toList ++ ("-".toList ++ group.toList) =
        account'.text.toList ++ ("-".toList ++ group'.toList) := by
      simpa only [mappingKey, String.toList_append, List.append_assoc] using
        congrArg String.toList same
    have long' : account.text.toList.length = account'.text.toList.length := by
      rwa [String.length_toList, String.length_toList]
    obtain ⟨accounts, rest⟩ := List.append_inj same' long'
    obtain ⟨_, groups⟩ := List.append_inj rest rfl
    cases account
    cases account'
    exact ⟨congrArg AccountId.mk (String.toList_inj.mp accounts), String.toList_inj.mp groups⟩
  · rintro ⟨rfl, rfl⟩
    rfl

namespace Local

/-- The role an account and a group were given last, if they were given one. -/
inductive Given (entries : Assignments) (account group : String) : Option String → Prop
  | last {before after : Assignments} {role : String}
      (split : entries = before ++ (account, group, role) :: after)
      (final : ∀ role', (account, group, role') ∉ after) : Given entries account group (some role)
  | never (absent : ∀ role, (account, group, role) ∉ entries) : Given entries account group none

/-- The role of the first group that was given one, and the groups asked for. -/
inductive Looked (entries : Assignments) (account : AccountId) (name : String)
    (groups : List String) : List String → Except CredentialError RoleArn → Prop
  | given {before after : List String} {group role : String}
      (split : groups = before ++ group :: after)
      (without : ∀ other ∈ before, Given entries account.text other none)
      (last : Given entries account.text group (some role)) :
      Looked entries account name groups (before ++ [group]) (.ok ⟨role⟩)
  | nowhere (without : ∀ group ∈ groups, Given entries account.text group none) :
      Looked entries account name groups groups (.error (.noRoleMapping account.text name))

section Table

variable {entries : Assignments} {account : AccountId} {group role : String}

theorem given_same (entries : Assignments) (account group role : String) :
    Given (entries ++ [(account, group, role)]) account group (some role) :=
  .last rfl fun _ => List.not_mem_nil

theorem given_apart {account : String} {found : Option String}
    (given : Given entries account group found) {entry : String × String × String}
    (apart : ∀ role, (account, group, role) ≠ entry) :
    Given (entries ++ [entry]) account group found := by
  cases given with
  | @last before after role split final =>
      have split' : entries ++ [entry] =
          before ++ (account, group, role) :: (after ++ [entry]) := by
        rw [split, List.append_assoc, List.cons_append]
      refine .last split' fun role' member => ?_
      rcases List.mem_append.mp member with later | new
      · exact final role' later
      · exact apart role' (List.mem_singleton.mp new)
  | never absent =>
      refine .never fun role member => ?_
      rcases List.mem_append.mp member with old | new
      · exact absent role old
      · exact apart role (List.mem_singleton.mp new)

theorem looked_cons {name : String} {groups asked : List String}
    {result : Except CredentialError RoleArn} (without : Given entries account.text group none)
    (looked : Looked entries account name groups asked result) :
    Looked entries account name (group :: groups) (group :: asked) result := by
  cases looked with
  | given split others last =>
      exact .given (congrArg (group :: ·) split) (List.forall_mem_cons.mpr ⟨without, others⟩) last
  | nowhere others => exact .nowhere (List.forall_mem_cons.mpr ⟨without, others⟩)

namespace RoleMapping

variable {table : RoleMapping}

theorem find_put_same (fine : table.failing = []) :
    (table.put account.text group role).find account group = .ok (some ⟨role⟩) := by
  simp [find, put, fine]

theorem find_put_apart {account' group' : String}
    (apart : mappingKey account group ≠ mappingKey ⟨account'⟩ group') :
    (table.put account' group' role).find account group = table.find account group := by
  simp [find, put, List.lookup_cons, beq_eq_false_iff_ne.mpr apart]

theorem failing_ofAssignments (entries : Assignments) (failing : List String) :
    (ofAssignments entries failing).failing = failing := by
  induction entries using List.reverseRecOn with
  | nil => rfl
  | append_singleton entries entry ih => simpa [ofAssignments, put] using ih

/-- The table answers for an account and a group with what these two were given last. -/
theorem find_ofAssignments (long : ∀ entry ∈ entries, entry.1.length = account.text.length)
    (group : String) : ∃ found, Given entries account.text group found ∧
      (ofAssignments entries []).find account group = .ok (found.map RoleArn.mk) := by
  -- From the end: the newest entry answers for its own account and group and for nothing else.
  induction entries using List.reverseRecOn with
  | nil => exact ⟨none, .never fun _ => List.not_mem_nil, rfl⟩
  | append_singleton entries entry ih =>
      obtain ⟨account', group', role⟩ := entry
      obtain ⟨earlier, new⟩ := List.forall_mem_append.mp long
      have long' : account.text.length = account'.length := (new _ List.mem_cons_self).symm
      have table : ofAssignments (entries ++ [(account', group', role)]) [] =
          (ofAssignments entries []).put account' group' role := by
        rw [ofAssignments, List.foldl_append]
        rfl
      rw [table]
      by_cases same : account = ⟨account'⟩ ∧ group = group'
      · obtain ⟨rfl, rfl⟩ := same
        exact ⟨some role, given_same .., find_put_same (failing_ofAssignments ..)⟩
      · obtain ⟨found, given, answer⟩ := ih earlier
        refine ⟨found, given_apart given ?_, ?_⟩
        · rintro _ ⟨⟩
          exact same ⟨rfl, rfl⟩
        · rw [find_put_apart fun key => same ((mappingKey_inj long').mp key), answer]

end RoleMapping

end Table

namespace World

variable {entries : Assignments} {account : AccountId} {w : World}

open Federation (firstMapped)

/-- A look-up changes nothing but the groups asked for. -/
theorem run_firstMapped (table : ∀ group, ∃ found, Given entries account.text group found ∧
      w.mappings.find account group = .ok (found.map RoleArn.mk))
    (name : String) (groups : List String) :
    ∃ asked result, w.run (firstMapped account name groups) =
        (some result, { w with mappings.asked := w.mappings.asked ++ asked }) ∧
      Looked entries account name groups asked result := by
  induction groups generalizing w with
  | nil =>
      refine ⟨[], _, ?_, .nowhere (by simp)⟩
      rw [List.append_nil]
      rfl
  | cons group groups ih =>
      obtain ⟨found, given, answer⟩ := table group
      let next : World := { w with mappings.asked := w.mappings.asked ++ [group] }
      have answered : w.answer (.findRole account group) = (.ok (found.map RoleArn.mk), next) := by
        rw [← answer]
        rfl
      change ∃ asked result, w.run (.ask (.findRole account group) _) = _ ∧ _
      simp only [run_ask, answered]
      cases found with
      | some role =>
          have front : group :: groups = [] ++ group :: groups := rfl
          exact ⟨[group], .ok ⟨role⟩, rfl, .given front (by simp) given⟩
      | none =>
          -- The next world answers for every group as this one does.
          obtain ⟨asked, result, run, looked⟩ := ih (w := next) table
          refine ⟨group :: asked, result, ?_, looked_cons given looked⟩
          have asks : w.mappings.asked ++ group :: asked = next.mappings.asked ++ asked := by
            simp [next]
          rw [asks]
          exact run

end World

end Local

theorem AccountId.length_of_parse {s : String} {account : AccountId}
    (parsed : AccountId.parse s = .ok account) : account.text.length = 12 := by
  rw [← String.length_toList]
  exact (AccountId.fits_of_parse parsed).length

theorem Federation.resolveRole_mapped {settings : FederationSettings}
    (strategy : settings.strategy = .groupMapping) (account : AccountId) (provider : String)
    (requester : Requester) : resolveRole settings account provider requester =
      firstMapped account requester.name requester.mappableGroups := by
  rw [resolveRole, strategy]

open Local

/-- Whoever answers, the groups of a requester are gone through in their order without the one of
everybody, up to a role or an error; and a table of what accounts and groups were given answers with
the last role of the very account and group. -/
theorem role_by_groups {settings : FederationSettings}
    (strategy : settings.strategy = .groupMapping) (account : AccountId) (provider : String)
    (requester : Requester) :
    requester.mappableGroups =
      requester.groups.filter (fun group => ¬ Requester.MeansEveryone group) ∧
    (∀ trace outcome,
      (Federation.resolveRole settings account provider requester).Ran trace outcome ↔
        ∃ result, outcome = some result ∧ Federation.Searched account requester.name
          requester.mappableGroups trace result) ∧
    ∀ s entries (w : World), AccountId.parse s = .ok account →
      (∀ entry ∈ entries, entry.1.length = 12) →
      w.mappings = { RoleMapping.ofAssignments entries [] with asked := w.mappings.asked } →
      ∃ asked result, w.run (Federation.resolveRole settings account provider requester) =
          (some result, { w with mappings.asked := w.mappings.asked ++ asked }) ∧
        Looked entries account requester.name requester.mappableGroups asked result := by
  rw [Federation.resolveRole_mapped strategy]
  refine ⟨requester.mappableGroups_eq, fun _ _ => Federation.firstMapped_iff,
    fun s entries w parsed long filled => ?_⟩
  have long' : ∀ entry ∈ entries, entry.1.length = account.text.length := by
    rwa [AccountId.length_of_parse parsed]
  refine World.run_firstMapped (fun group => ?_) _ _
  rw [filled]
  exact RoleMapping.find_ofAssignments long' group

namespace Sample

def requester : Requester := ⟨"ada", ["EVERYONE", "ops", "dev-7", "dev"]⟩

/-- One group is mapped for another account, and one is mapped twice. -/
def assignments : Assignments := [
  ("000011112222", "dev", "role/dev"), ("000011112222", "dev-7", "role/old"),
  ("999911112222", "ops", "role/ops"), ("000011112222", "dev-7", "role/new")]

def world : World := { clock := default, mappings := .ofAssignments assignments [] }

end Sample

theorem sample_role_by_groups :
    (Sample.world.run (Federation.resolveRole Federation.Sample.settings ⟨"000011112222"⟩ "east"
      Sample.requester)).1 = some (.ok ⟨"role/new"⟩) ∧
    Looked Sample.assignments ⟨"000011112222"⟩ "ada" Sample.requester.mappableGroups
      ["ops", "dev-7"] (.ok ⟨"role/new"⟩) := by
  have strategy : Federation.Sample.settings.strategy = .groupMapping := rfl
  have groups : Sample.requester.mappableGroups = ["ops", "dev-7", "dev"] := by
    rw [Requester.mappableGroups_eq]
    rfl
  have account : AccountId.parse "000011112222" = .ok ⟨"000011112222"⟩ := rfl
  have long : ∀ entry ∈ Sample.assignments, entry.1.length = 12 := by decide +kernel
  have resolving := Federation.resolveRole_mapped strategy ⟨"000011112222"⟩ "east" Sample.requester
  rw [groups] at resolving
  have ran : Sample.world.run (Federation.resolveRole Federation.Sample.settings
      ⟨"000011112222"⟩ "east" Sample.requester) = (some (.ok ⟨"role/new"⟩),
        { Sample.world with mappings.asked := ["ops", "dev-7"] }) := by
    rw [resolving]
    rfl
  obtain ⟨asked, result, run, looked⟩ := (role_by_groups strategy ⟨"000011112222"⟩
    "east" Sample.requester).2.2 "000011112222" Sample.assignments Sample.world account long rfl
  rw [ran] at run
  obtain ⟨same, after⟩ := Prod.mk.inj run
  cases same
  have asks : ["ops", "dev-7"] = asked := congrArg (·.mappings.asked) after
  subst asks
  exact ⟨by rw [ran], looked⟩

end Rollout
