import Mathlib.Data.List.Pairwise
import Rollout.Audit.Sequence
import Rollout.Proofs.Recording
import Rollout.Proofs.TimestampOrder

/-!
Records of one writer. Its callers write at the same time, in any order of their
calls, and share the sequence; only taking a value from it is one step. Whatever
the clock shows, values grow, and with them the times in the records, so that no
two records have one id, however much their other parts look alike.
-/

namespace Rollout

namespace AuditRecord

theorem id_closes (e : AuditEntry) (sequence : Int) :
    ∃ front, (ofEntry e sequence).id.toList = front ++ (timestamp sequence).toList := by
  refine ⟨(e.account ++ "#" ++ e.region ++ "#" ++ e.requester ++ "#" ++ e.actionType ++
    "#").toList, ?_⟩
  rw [← String.toList_append]
  rfl

/-- The time that closes an id has a fixed width, so no other part can stand in for it. -/
theorem id_ne {a b : Int} (e f : AuditEntry) (since : 0 ≤ a) (since' : 0 ≤ b)
    (early : (Time.Instant.ofMicros a).date.year < 10000)
    (early' : (Time.Instant.ofMicros b).date.year < 10000) (differ : a ≠ b) :
    (ofEntry e a).id ≠ (ofEntry f b).id := by
  intro same
  obtain ⟨front, closes⟩ := id_closes e a
  obtain ⟨front', closes'⟩ := id_closes f b
  rw [same, closes'] at closes
  have width : (timestamp b).toList.length = (timestamp a).toList.length := by
    rw [length_timestamp since early, length_timestamp since' early']
  have shown : timestamp b = timestamp a :=
    String.toList_injective (List.append_inj_right' closes width)
  rcases Int.lt_or_gt_of_ne differ with less | less
  · have before := timestamp_lt since less early'
    rw [shown] at before
    exact String.lt_irrefl _ before
  · have before := timestamp_lt since' less early
    rw [shown] at before
    exact String.lt_irrefl _ before

end AuditRecord

namespace Dialogue

variable {Question : Type} {Answer : Question → Type} {α : Type}

/-- The first part of a run, and what is left of the dialogue after it. -/
inductive Reaches (p : Dialogue Question Answer α) :
    List (Exchange Question Answer) → Dialogue Question Answer α → Prop
  | here : Reaches p [] p
  | ask {trace : List (Exchange Question Answer)} {question : Question}
      {next : Answer question → Dialogue Question Answer α}
      (before : Reaches p trace (ask question next)) (answer : Answer question) :
      Reaches p (trace ++ [⟨question, answer⟩]) (next answer)

/-- The first part of a run can be followed by any run of what is left. -/
theorem reaches_ran {p q : Dialogue Question Answer α}
    {first rest : List (Exchange Question Answer)} {outcome : Option α}
    (reached : p.Reaches first q) (ran : q.Ran rest outcome) : p.Ran (first ++ rest) outcome := by
  induction reached generalizing rest with
  | here => exact ran
  | ask before answer ih =>
      rw [List.append_assoc]
      exact ih (.ask answer ran)

end Dialogue

/-- Some answer to each call. -/
def Call.anyAnswer : (c : Call) → c.Answer
  | .providers _ => .ok []
  | .findRole _ _ => .ok none
  | .assumeRole _ => .ok ⟨"", "", "", none⟩
  | .parameter _ _ => .ok none
  | .startExecution _ _ _ => .error (.transport "")
  | .describe _ _ => .error (.transport "")
  | .history _ _ _ => .ok []
  | .stamp => (0 : Int)
  | .append _ _ _ => .ok ()
  | .clock => Time.Instant.epoch
  | .sleep _ => ()
  | .showEvent _ _ => ()
  | .showHeartbeat _ _ _ _ => ()

/-- The sequence value a call has taken. -/
def Exchange.stamped? (x : Exchange Call Call.Answer) : Option Int :=
  match x with
  | ⟨.stamp, value⟩ => some value
  | _ => none

/-- The record a call hands to the ledger. -/
def Exchange.appended? (x : Exchange Call Call.Answer) : Option AuditRecord :=
  match x with
  | ⟨.append _ _ record, _⟩ => some record
  | _ => none

namespace Audit

open Dialogue

/-- How far the calls of one record have come. -/
inductive Underway (grant : Grant) (entry : AuditEntry) : Trace → Prop
  | waiting : Underway grant entry []
  | looked (lookup : Except ParameterError (Option String)) :
      Underway grant entry [⟨.parameter grant entry.path, lookup⟩]
  | stamped (lookup : Except ParameterError (Option String)) (sequence : Int) :
      Underway grant entry [⟨.parameter grant entry.path, lookup⟩, ⟨.stamp, sequence⟩]
  | appended (lookup : Except ParameterError (Option String)) (sequence : Int) (table : String)
      (answer : Except LedgerError Unit) :
      Underway grant entry [⟨.parameter grant entry.path, lookup⟩, ⟨.stamp, sequence⟩,
        ⟨.append grant table (.ofEntry entry sequence), answer⟩]

section Underway

variable {grant : Grant} {entry : AuditEntry} {trace : Trace}

theorem underway_of_prefix {lookup : Except ParameterError (Option String)} {sequence : Int}
    {table : String} {answer : Except LedgerError Unit}
    (first : trace <+: [⟨.parameter grant entry.path, lookup⟩, ⟨.stamp, sequence⟩,
      ⟨.append grant table (.ofEntry entry sequence), answer⟩]) : Underway grant entry trace := by
  rcases List.prefix_cons_iff.mp first with rfl | ⟨_, rfl, second⟩
  · exact .waiting
  rcases List.prefix_cons_iff.mp second with rfl | ⟨_, rfl, third⟩
  · exact .looked lookup
  rcases List.prefix_cons_iff.mp third with rfl | ⟨_, rfl, last⟩
  · exact .stamped lookup sequence
  obtain rfl := List.prefix_nil.mp last
  exact .appended lookup sequence table answer

theorem record_reaches {rest : Program AuditOutcome}
    (reached : (record grant entry).Reaches trace rest) : Underway grant entry trace := by
  have ran := reaches_ran reached (answered_ran Call.anyAnswer rest)
  obtain ⟨_, _, _, written⟩ := record_ran ran
  generalize whole : trace ++ (rest.answered Call.anyAnswer).1 = calls at written
  have first : trace <+: calls := ⟨_, whole⟩
  cases written with
  | lookupFailed e =>
      have longer := first.trans (List.prefix_append _
        [⟨.stamp, (0 : Int)⟩, ⟨.append grant "" (.ofEntry entry 0), .ok ()⟩])
      exact underway_of_prefix longer
  | noTable found _ =>
      have longer := first.trans (List.prefix_append _
        [⟨.stamp, (0 : Int)⟩, ⟨.append grant "" (.ofEntry entry 0), .ok ()⟩])
      exact underway_of_prefix longer
  | rejected table _ sequence e => exact underway_of_prefix first
  | written table _ sequence => exact underway_of_prefix first

/-- A record is handed over at most once, and with the value taken before. -/
theorem underway_appended (underway : Underway grant entry trace) :
    trace.filterMap Exchange.appended? = [] ∨
      ∃ sequence, ⟨.stamp, sequence⟩ ∈ trace ∧
        trace.filterMap Exchange.appended? = [.ofEntry entry sequence] := by
  cases underway with
  | waiting => exact Or.inl rfl
  | looked lookup => exact Or.inl rfl
  | stamped lookup sequence => exact Or.inl rfl
  | appended lookup sequence table answer =>
      refine Or.inr ⟨sequence, ?_, rfl⟩
      exact List.mem_cons_of_mem _ List.mem_cons_self

end Underway

/-- Callers of one writer, each somewhere in its record, and the sequence they share. -/
structure Writer where
  sequence : AuditSequence
  callers : List (Program AuditOutcome)

structure Turn where
  caller : Nat
  exchange : Exchange Call Call.Answer

/-- The sequence values taken, in the order in which they were taken. -/
def stamped (turns : List Turn) : List Int := turns.filterMap (·.exchange.stamped?)

/-- The records handed to the ledger, in the order in which they were. -/
def appended (turns : List Turn) : List AuditRecord := turns.filterMap (·.exchange.appended?)

/-- The calls of one caller. -/
def own (caller : Nat) (turns : List Turn) : Trace :=
  (turns.filter (·.caller == caller)).map Turn.exchange

namespace Writer

/-- One caller for each entry, and no value taken yet. -/
def fresh (tasks : List (Grant × AuditEntry)) : Writer :=
  ⟨{}, tasks.map fun task => record task.1 task.2⟩

/-- Turns of the callers in any order. Clock readings are those of the stamps, every other call
may be answered in any way, and callers may be left in the middle. -/
inductive Ran (start : Writer) : List Int → List Turn → Writer → Prop
  | here : Ran start [] [] start
  | stamp {clocks : List Int} {turns : List Turn} {w : Writer} {caller : Nat}
      {next : Int → Program AuditOutcome} (before : Ran start clocks turns w)
      (asks : w.callers[caller]? = some (.ask .stamp next)) (clock : Int) :
      Ran start (clocks ++ [clock])
        (turns ++ [⟨caller, ⟨.stamp, w.sequence.next clock⟩⟩])
        ⟨w.sequence.advance clock, w.callers.set caller (next (w.sequence.next clock))⟩
  | call {clocks : List Int} {turns : List Turn} {w : Writer} {caller : Nat} {question : Call}
      {next : question.Answer → Program AuditOutcome} (before : Ran start clocks turns w)
      (asks : w.callers[caller]? = some (.ask question next)) (other : question ≠ .stamp)
      (answer : question.Answer) :
      Ran start clocks (turns ++ [⟨caller, ⟨question, answer⟩⟩])
        ⟨w.sequence, w.callers.set caller (next answer)⟩

variable {start w : Writer} {tasks : List (Grant × AuditEntry)} {clocks : List Int}
  {turns : List Turn}

theorem ran_values (ran : start.Ran clocks turns w) :
    stamped turns = start.sequence.values clocks ∧ w.sequence = start.sequence.after clocks := by
  induction ran with
  | here => exact ⟨rfl, rfl⟩
  | stamp before asks clock ih =>
      obtain ⟨values, sequence⟩ := ih
      rw [AuditSequence.values_append, AuditSequence.after_append, ← values, ← sequence]
      exact ⟨List.filterMap_append, rfl⟩
  | @call _ turns _ caller question _ before asks other answer ih =>
      obtain ⟨values, sequence⟩ := ih
      refine ⟨?_, sequence⟩
      have silent : Exchange.stamped? ⟨question, answer⟩ = none := by
        cases question <;> first | rfl | exact absurd rfl other
      have same : stamped (turns ++ [⟨caller, ⟨question, answer⟩⟩]) = stamped turns := by
        simp [stamped, silent]
      rwa [same]

/-- A turn moves the caller whose turn it is, and nobody else. -/
theorem turn_own {callers : List (Program AuditOutcome)} {caller other : Nat} {question : Call}
    {next : question.Answer → Program AuditOutcome} {program : Program AuditOutcome}
    (asks : callers[caller]? = some (.ask question next)) (answer : question.Answer)
    (before : ∃ rest, callers[other]? = some rest ∧ program.Reaches (own other turns) rest) :
    ∃ rest, (callers.set caller (next answer))[other]? = some rest ∧
      program.Reaches (own other (turns ++ [⟨caller, ⟨question, answer⟩⟩])) rest := by
  obtain ⟨rest, stands, reached⟩ := before
  by_cases same : caller = other
  · subst same
    have inside : caller < callers.length := (List.getElem?_eq_some_iff.mp asks).1
    obtain rfl : .ask question next = rest := Option.some.inj (asks.symm.trans stands)
    refine ⟨next answer, List.getElem?_set_self inside, ?_⟩
    have longer : own caller (turns ++ [⟨caller, ⟨question, answer⟩⟩]) =
        own caller turns ++ [⟨question, answer⟩] := by
      simp [own]
    rw [longer]
    exact .ask reached answer
  · refine ⟨rest, (List.getElem?_set_ne same).trans stands, ?_⟩
    have unmoved : own other (turns ++ [⟨caller, ⟨question, answer⟩⟩]) = own other turns := by
      simp [own, same]
    rwa [unmoved]

/-- A caller's own calls are the first part of a run of its record. -/
theorem ran_own (ran : start.Ran clocks turns w) {caller : Nat} {program : Program AuditOutcome}
    (starts : start.callers[caller]? = some program) :
    ∃ rest, w.callers[caller]? = some rest ∧ program.Reaches (own caller turns) rest := by
  induction ran with
  | here => exact ⟨program, starts, .here⟩
  | stamp before asks clock ih => exact turn_own asks _ ih
  | call before asks other answer ih => exact turn_own asks answer ih

theorem ran_callers (ran : start.Ran clocks turns w) :
    w.callers.length = start.callers.length ∧
      ∀ turn ∈ turns, turn.caller < start.callers.length := by
  induction ran with
  | here => simp
  | stamp before asks clock ih =>
      obtain ⟨size, known⟩ := ih
      have inside := (List.getElem?_eq_some_iff.mp asks).1
      refine ⟨(List.length_set ..).trans size, List.forall_mem_append.mpr ⟨known, ?_⟩⟩
      simpa [← size] using inside
  | call before asks other answer ih =>
      obtain ⟨size, known⟩ := ih
      have inside := (List.getElem?_eq_some_iff.mp asks).1
      refine ⟨(List.length_set ..).trans size, List.forall_mem_append.mpr ⟨known, ?_⟩⟩
      simpa [← size] using inside

theorem own_underway (ran : (fresh tasks).Ran clocks turns w) {turn : Turn}
    (member : turn ∈ turns) :
    ∃ task, tasks[turn.caller]? = some task ∧ Underway task.1 task.2 (own turn.caller turns) := by
  have inside := (ran_callers ran).2 turn member
  rw [fresh, List.length_map] at inside
  have starts : (fresh tasks).callers[turn.caller]? =
      some (record tasks[turn.caller].1 tasks[turn.caller].2) := by
    simp [fresh, inside]
  obtain ⟨rest, _, reached⟩ := ran_own ran starts
  exact ⟨tasks[turn.caller], List.getElem?_eq_getElem inside, record_reaches reached⟩

theorem mem_own {turn : Turn} (member : turn ∈ turns) :
    turn.exchange ∈ own turn.caller turns :=
  List.mem_map.mpr ⟨turn, List.mem_filter.mpr ⟨member, by simp⟩, rfl⟩

theorem turn_of_mem_own {caller : Nat} {x : Exchange Call Call.Answer}
    (member : x ∈ own caller turns) : ⟨caller, x⟩ ∈ turns := by
  obtain ⟨turn, found, rfl⟩ := List.mem_map.mp member
  obtain ⟨inside, same⟩ := List.mem_filter.mp found
  obtain rfl : turn.caller = caller := by simpa using same
  exact inside

/-- A record handed to the ledger is that of the caller's entry with the value it has taken. -/
theorem appended_origin (ran : (fresh tasks).Ran clocks turns w) {turn : Turn}
    (member : turn ∈ turns) {record : AuditRecord}
    (appends : turn.exchange.appended? = some record) :
    ∃ task sequence, tasks[turn.caller]? = some task ∧
      ⟨turn.caller, ⟨.stamp, sequence⟩⟩ ∈ turns ∧ record = .ofEntry task.2 sequence := by
  obtain ⟨task, known, underway⟩ := own_underway ran member
  have handed : record ∈ (own turn.caller turns).filterMap Exchange.appended? :=
    List.mem_filterMap.mpr ⟨_, mem_own member, appends⟩
  rcases underway_appended underway with none | ⟨sequence, stamps, one⟩
  · rw [none] at handed
    cases handed
  · rw [one, List.mem_singleton] at handed
    exact ⟨task, sequence, known, turn_of_mem_own stamps, handed⟩

/-- Two records come from two callers. -/
theorem appended_callers (ran : (fresh tasks).Ran clocks turns w) :
    turns.Pairwise fun first second => first.exchange.appended? ≠ none →
      second.exchange.appended? ≠ none → first.caller ≠ second.caller := by
  apply List.pairwise_iff_forall_sublist.mpr
  intro first second within one two same
  obtain ⟨record, handed⟩ := Option.ne_none_iff_exists'.mp one
  obtain ⟨other, handed'⟩ := Option.ne_none_iff_exists'.mp two
  have inside : first ∈ turns := within.subset List.mem_cons_self
  obtain ⟨task, _, underway⟩ := own_underway ran inside
  -- Both would be calls of one run, which appends once at most.
  have both : [first.exchange, second.exchange].Sublist (own first.caller turns) := by
    have kept := (within.filter (·.caller == first.caller)).map Turn.exchange
    simpa [own, same] using kept
  have records := both.filterMap Exchange.appended?
  have size := records.length_le
  rcases underway_appended underway with none | ⟨_, _, one⟩
  · simp [none, handed, handed'] at size
  · simp [one, handed, handed'] at size

/-- Turns that took a value took different ones. -/
theorem stamps_differ (ran : (fresh tasks).Ran clocks turns w) {first second : Turn}
    (member : first ∈ turns) (member' : second ∈ turns) (differ : first ≠ second) {a b : Int}
    (one : first.exchange.stamped? = some a) (two : second.exchange.stamped? = some b) : a ≠ b := by
  have values := (ran_values ran).1
  have increasing := (List.pairwise_cons.mp (AuditSequence.values_increasing {} clocks)).2
  rw [fresh] at values
  rw [← values, stamped, List.pairwise_filterMap] at increasing
  have apart : turns.Pairwise fun first second =>
      ∀ a b, first.exchange.stamped? = some a → second.exchange.stamped? = some b → a ≠ b := by
    refine increasing.imp ?_
    intro first second less a b one two
    exact Int.ne_of_lt (less a one b two)
  have symmetric : Std.Symm fun first second : Turn =>
      ∀ a b, first.exchange.stamped? = some a → second.exchange.stamped? = some b → a ≠ b :=
    ⟨fun _ _ apart a b one two same => apart b a two one same.symm⟩
  exact apart.forall member member' differ a b one two

/-- Values follow the clock or count on from the value before, grow, and are written in the order
in which they grow. Every record is that of its caller's entry with a value of its own, so records
are in the order of their times as of their values, and no two have the same id. -/
theorem records_distinct (ran : (fresh tasks).Ran clocks turns w)
    (early : ∀ value ∈ stamped turns, (Time.Instant.ofMicros value).date.year < 10000) :
    stamped turns =
      clocks.zipWith (fun clock previous => max clock (previous + 1)) (0 :: stamped turns) ∧
    (stamped turns).Pairwise (· < ·) ∧
    ((stamped turns).map AuditRecord.timestamp).Pairwise (· < ·) ∧
    (∀ turn ∈ turns, ∀ record, turn.exchange.appended? = some record →
      ∃ task sequence, tasks[turn.caller]? = some task ∧
        ⟨turn.caller, ⟨.stamp, sequence⟩⟩ ∈ turns ∧ record = .ofEntry task.2 sequence) ∧
    (∀ first ∈ appended turns, ∀ second ∈ appended turns,
      first.sequence < second.sequence ↔ first.createdAt < second.createdAt) ∧
    (appended turns).Pairwise fun first second => first.id ≠ second.id := by
  have values : stamped turns = AuditSequence.values {} clocks := (ran_values ran).1
  obtain ⟨positive, increasing⟩ :=
    List.pairwise_cons.mp (AuditSequence.values_increasing {} clocks)
  rw [← values] at positive increasing
  have since : ∀ value ∈ stamped turns, 0 ≤ value := fun value member =>
    Int.le_of_lt (positive value member)
  have mem_stamped : ∀ {caller : Nat} {value : Int}, ⟨caller, ⟨.stamp, value⟩⟩ ∈ turns →
      value ∈ stamped turns := by
    intro caller value member
    exact List.mem_filterMap.mpr ⟨_, member, rfl⟩
  have order : ∀ {a b : Int}, a ∈ stamped turns → b ∈ stamped turns → a < b →
      AuditRecord.timestamp a < AuditRecord.timestamp b := fun one two less =>
    AuditRecord.timestamp_lt (since _ one) less (early _ two)
  refine ⟨?_, increasing, ?_, ?_, ?_, ?_⟩
  · rw [values]
    exact AuditSequence.values_eq {} clocks
  · rw [List.pairwise_map]
    exact increasing.imp_of_mem fun one two less => order one two less
  · intro turn member record appends
    exact appended_origin ran member appends
  · intro first one second two
    obtain ⟨turn, member, appends⟩ := List.mem_filterMap.mp one
    obtain ⟨turn', member', appends'⟩ := List.mem_filterMap.mp two
    obtain ⟨task, a, _, stamps, rfl⟩ := appended_origin ran member appends
    obtain ⟨task', b, _, stamps', rfl⟩ := appended_origin ran member' appends'
    constructor
    · exact order (mem_stamped stamps) (mem_stamped stamps')
    · intro before
      -- Otherwise the times were equal or the other way round.
      by_contra notLess
      rcases Int.lt_or_eq_of_le (Int.not_lt.mp notLess) with less | same
      · have after := order (mem_stamped stamps') (mem_stamped stamps) less
        exact String.lt_irrefl _ (String.lt_trans before after)
      · have shown : AuditRecord.timestamp b = AuditRecord.timestamp a := congrArg _ same
        have shifted : AuditRecord.timestamp a < AuditRecord.timestamp b := before
        rw [shown] at shifted
        exact String.lt_irrefl _ shifted
  · refine List.pairwise_filterMap.mpr ((appended_callers ran).imp_of_mem ?_)
    intro turn turn' member member' apart record appends record' appends'
    obtain ⟨task, a, _, stamps, rfl⟩ := appended_origin ran member appends
    obtain ⟨task', b, _, stamps', rfl⟩ := appended_origin ran member' appends'
    have callers : turn.caller ≠ turn'.caller := apart (by simp [appends]) (by simp [appends'])
    have turns_differ : Turn.mk turn.caller ⟨.stamp, a⟩ ≠ ⟨turn'.caller, ⟨.stamp, b⟩⟩ :=
      fun same => callers (Turn.mk.inj same).1
    have differ : a ≠ b := stamps_differ ran stamps stamps' turns_differ rfl rfl
    exact AuditRecord.id_ne task.2 task'.2 (since a (mem_stamped stamps))
      (since b (mem_stamped stamps')) (early a (mem_stamped stamps))
      (early b (mem_stamped stamps')) differ

namespace Sample

def entry (requester actionType : String) : AuditEntry :=
  { actionType, actionName := "shop", requester, owner := "", assumedRole := "arn:role",
    account := "000011112222", region := "us-east-1", platform := "opa", provider := "dev",
    application := "shop", request := "{}", status := .inProgress, message := "" }

def first : AuditEntry := entry "ada#create" "app"

/-- Its id reads like that of the first entry up to the time. -/
def second : AuditEntry := entry "ada" "create#app"

def pair : List (Grant × AuditEntry) := [(Sample.grant, first), (Sample.grant, second)]

def lookup (entry : AuditEntry) : Call := .parameter Sample.grant entry.path

end Sample

/-- The second caller takes its value from a clock that has stepped back, and is written first. -/
theorem sample_records_distinct :
    ∃ turns w, (fresh Sample.pair).Ran [1772366400000000, 1772366399000000] turns w ∧
      stamped turns = [1772366400000000, 1772366400000001] ∧
      (appended turns).length = 2 ∧
      (appended turns).Pairwise fun first second => first.id ≠ second.id := by
  have one := @Ran.call (fresh Sample.pair) [] [] _ 0 (Sample.lookup Sample.first) _ .here rfl
    nofun (.ok (some "table"))
  have two := @Ran.call _ _ _ _ 1 (Sample.lookup Sample.second) _ one rfl nofun
    (.ok (some "table"))
  have three := @Ran.stamp _ _ _ _ 0 _ two rfl 1772366400000000
  have four := @Ran.stamp _ _ _ _ 1 _ three rfl 1772366399000000
  have five := @Ran.call _ _ _ _ 1
    (.append Sample.grant "table" (.ofEntry Sample.second 1772366400000001)) _ four rfl nofun
    (.ok ())
  have six := @Ran.call _ _ _ _ 0
    (.append Sample.grant "table" (.ofEntry Sample.first 1772366400000000)) _ five rfl nofun
    (.ok ())
  refine ⟨_, _, six, rfl, rfl, ?_⟩
  exact (records_distinct six (by decide)).2.2.2.2.2

end Writer

end Audit

end Rollout
