import Mathlib.Algebra.GroupWithZero.Nat
import Mathlib.Data.List.Sort
import SqlCompose.Proofs.Executor.Calls

/-! # The outcome of a batch

A batch asks its driver for three things: to prepare the statement, to send the groups, and, if the
configuration says so, to take the handle back.  How it ends depends on the answers to the first
two.  If neither is an error, the result of every group counts: the rows of the successful ones are
added up, and the failed ones are listed.

Main statements: the failures listed are the failed results in their order (`lists_failures`), the
rows are added up exactly as long as their number fits in 64 bits (`affected_toNat`), the answers
determine the end (`Ends.unique`), and executing a statement with groups makes the calls of a batch
and ends as the answers to it say, whatever the driver says to the handle (`exec_batch_outcome`).
-/

namespace SqlCompose

namespace Executor

/-! ## Adding up and listing -/

/-- The number of rows that a result counts. -/
def counted : Except SqlError UInt64 → Nat
  | .ok n => n.toNat
  | .error _ => 0

/-- The number of rows that the results count together. -/
def total (results : List (Except SqlError UInt64)) : Nat :=
  (results.map counted).sum

theorem total_cons (r : Except SqlError UInt64) (rest : List (Except SqlError UInt64)) :
    total (r :: rest) = counted r + total rest := by
  rw [total, List.map_cons, List.sum_cons, total]

/-- The total is computed modulo 2 ^ 64. -/
theorem affected_toNat (results : List (Except SqlError UInt64)) :
    (affected results).toNat = total results % 2 ^ 64 := by
  -- the fold is generalized to start at any count, so that a result can be added in front
  suffices h : ∀ acc : UInt64,
      (results.foldl (fun acc r => match r with | .ok n => acc + n | .error _ => acc) acc).toNat
        = (acc.toNat + total results) % 2 ^ 64 by
    have whole := h 0
    rw [UInt64.toNat_zero, Nat.zero_add] at whole
    exact whole
  induction results with
  | nil =>
    intro acc
    have bound : acc.toNat < 2 ^ 64 := acc.toNat_lt
    exact (Nat.mod_eq_of_lt bound).symm
  | cons r rest ih =>
    intro acc
    rw [List.foldl_cons, ih, total_cons]
    cases r with
    | error e => rw [counted, Nat.zero_add]
    | ok n =>
      rw [counted, UInt64.toNat_add]
      omega

/-- The failures are the failed ones of the results, in their order. -/
structure Lists (failures : List RowFailure) (results : List (Except SqlError UInt64)) :
    Prop where
  increasing : failures.Pairwise (·.index < ·.index)
  failed : ∀ f, f ∈ failures ↔ results[f.index]? = some (.error f.error)

/-- The failures listed are the failed results, with their positions. -/
theorem mem_failures (results : List (Except SqlError UInt64)) (index : Nat) (f : RowFailure) :
    f ∈ failures index results ↔
      ∃ i, f.index = index + i ∧ results[i]? = some (.error f.error) := by
  induction results generalizing index with
  | nil => simp [failures]
  | cons r rest ih =>
    -- the failures of the rest are those with a position after the first one
    have later : f ∈ failures (index + 1) rest ↔
        ∃ i, f.index = index + (i + 1) ∧ rest[i]? = some (.error f.error) := by
      rw [ih]
      simp only [Nat.add_assoc, Nat.add_comm 1]
    cases r with
    | ok n =>
      rw [failures, later]
      constructor
      · rintro ⟨i, place, failed⟩
        exact ⟨i + 1, place, failed⟩
      · rintro ⟨i, place, failed⟩
        cases i with
        | zero => cases failed
        | succ i => exact ⟨i, place, failed⟩
    | error e =>
      rw [failures, List.mem_cons, later]
      constructor
      · rintro (rfl | ⟨i, place, failed⟩)
        · exact ⟨0, rfl, rfl⟩
        · exact ⟨i + 1, place, failed⟩
      · rintro ⟨i, place, failed⟩
        cases i with
        | zero =>
          obtain ⟨position, error⟩ := f
          cases failed
          cases place
          exact .inl rfl
        | succ i => exact .inr ⟨i, place, failed⟩

/-- Failures are listed by their positions. -/
theorem failures_increasing (results : List (Except SqlError UInt64)) (index : Nat) :
    (failures index results).Pairwise (·.index < ·.index) := by
  induction results generalizing index with
  | nil => exact .nil
  | cons r rest ih =>
    cases r with
    | ok n => exact ih (index + 1)
    | error e =>
      refine .cons ?_ (ih (index + 1))
      intro f hf
      obtain ⟨i, place, -⟩ := (mem_failures rest (index + 1) f).1 hf
      have first : (⟨index, e⟩ : RowFailure).index = index := rfl
      omega

/-- What is computed is the list of the failures. -/
theorem lists_failures (results : List (Except SqlError UInt64)) :
    Lists (failures 0 results) results := by
  refine ⟨failures_increasing results 0, ?_⟩
  intro f
  rw [mem_failures]
  constructor
  · rintro ⟨i, place, failed⟩
    rw [place, Nat.zero_add]
    exact failed
  · intro failed
    exact ⟨f.index, (Nat.zero_add _).symm, failed⟩

/-- There is one list of the failed results. -/
theorem Lists.unique {failures failures' : List RowFailure}
    {results : List (Except SqlError UInt64)} (h : Lists failures results)
    (h' : Lists failures' results) : failures = failures' := by
  -- positions go up, so that nothing is listed twice and the order is determined
  have irrefl : Std.Irrefl fun f g : RowFailure => f.index < g.index :=
    ⟨fun f => Nat.lt_irrefl f.index⟩
  have antisymm : Std.Antisymm fun f g : RowFailure => f.index < g.index :=
    ⟨fun _ _ before after => absurd after (Nat.lt_asymm before)⟩
  refine h.increasing.eq_of_mem_iff h'.increasing ?_
  intro f
  rw [h.failed, h'.failed]

/-- Without failures, all results are successes. -/
theorem failures_eq_nil (results : List (Except SqlError UInt64)) :
    failures 0 results = [] ↔ ∀ e, .error e ∉ results := by
  have listed := (lists_failures results).failed
  constructor
  · intro none e he
    obtain ⟨i, place⟩ := List.mem_iff_getElem?.1 he
    have failure : ⟨i, e⟩ ∈ failures 0 results := (listed ⟨i, e⟩).2 place
    rw [none] at failure
    cases failure
  · intro successes
    rw [List.eq_nil_iff_forall_not_mem]
    intro f hf
    exact successes f.error (List.mem_of_getElem? ((listed f).1 hf))

/-! ## How a batch ends -/

/-- How a batch ends, by the driver's answers to preparing the statement and to sending the
groups. -/
inductive Ends : (prepared : Except SqlError Unit) →
    (sent : Except SqlError (List (Except SqlError UInt64))) →
    (outcome : Except SqlError UInt64) → Prop
  | unprepared {e : SqlError} {sent : Except SqlError (List (Except SqlError UInt64))} :
      Ends (.error e) sent (.error e)
  | unsent {e : SqlError} : Ends (.ok ()) (.error e) (.error e)
  | complete {results : List (Except SqlError UInt64)} {n : UInt64}
      (successes : ∀ e, .error e ∉ results) (sum : n.toNat = total results) :
      Ends (.ok ()) (.ok results) (.ok n)
  | incomplete {results : List (Except SqlError UInt64)} {n : UInt64} {e : SqlError}
      {failures : List RowFailure} (failure : .error e ∈ results) (sum : n.toNat = total results)
      (lists : Lists failures results) :
      Ends (.ok ()) (.ok results) (.error (.batch n failures))

/-- The answers determine the end. -/
theorem Ends.unique {prepared : Except SqlError Unit}
    {sent : Except SqlError (List (Except SqlError UInt64))}
    {outcome outcome' : Except SqlError UInt64}
    (h : Ends prepared sent outcome) (h' : Ends prepared sent outcome') : outcome = outcome' := by
  cases h with
  | unprepared =>
    cases h'
    rfl
  | unsent =>
    cases h'
    rfl
  -- either no result is a failure, or some are, and the sum and the list are determined
  | complete successes sum =>
    cases h' with
    | complete _ sum' => rw [UInt64.toNat_inj.1 (sum.trans sum'.symm)]
    | incomplete failure => exact absurd failure (successes _)
  | incomplete failure sum lists =>
    cases h' with
    | complete successes => exact absurd failure (successes _)
    | incomplete _ sum' lists' =>
      rw [UInt64.toNat_inj.1 (sum.trans sum'.symm), lists.unique lists']

def summary (results : List (Except SqlError UInt64)) : Except SqlError UInt64 :=
  match failures 0 results with
  | [] => .ok (affected results)
  | failed => .error (.batch (affected results) failed)

/-- The summary is how a complete batch ends, as long as the rows fit in 64 bits. -/
theorem ends_summary {results : List (Except SqlError UInt64)} (fits : total results < 2 ^ 64) :
    Ends (.ok ()) (.ok results) (summary results) := by
  have sum : (affected results).toNat = total results := by
    rw [affected_toNat, Nat.mod_eq_of_lt fits]
  have listed := lists_failures results
  -- the list of failures is empty exactly if every result is a success
  unfold summary
  split
  next none => exact .complete ((failures_eq_nil results).1 none) sum
  next some =>
    obtain ⟨f, hf⟩ := List.exists_mem_of_ne_nil _ some
    exact .incomplete (List.mem_of_getElem? ((listed.failed f).1 hf)) sum listed

end Executor

namespace Playback

open Executor

/-! ## The answers and the outcome -/

/-- The answer to preparing a statement. -/
def State.preparing (st : State) : Except SqlError Unit :=
  (st.preparations.take ()).1

/-- The answer to sending groups of arguments. -/
def State.sending (st : State) (groups : List (List Value)) :
    Except SqlError (List (Except SqlError UInt64)) :=
  (st.batches.take (groups.map fun _ => .ok 1)).1

def batchCalls (config : ExecConfig) (w : Writer) (st : State) : List DriverCall :=
  let name := statementName config.namePrefix w.text
  let handle : Handle := ⟨name, st.prepared + 1⟩
  .prepare name w.text ::
    match st.preparing with
    | .error _ => []
    | .ok () => .batch handle w.groups ::
        if config.deallocateAfterBatch then [.deallocate handle] else []

/-- The answer to preparing depends on no event. -/
theorem prepare_answer (name sql : String) (st : State) :
    (prepare name sql st).1 = st.preparing.map fun () => ⟨name, st.prepared + 1⟩ := rfl

variable (config : ExecConfig)

/-- Logging a statement leaves everything but the events. -/
theorem log_state (kind : StmtKind) (w : Writer) (st : State) :
    ∃ events, ((executor config).log kind w st).2 = { st with events := events } := by
  unfold Executor.log
  cases (executor config).config.logLevel.severity? with
  | none => exact ⟨st.events, rfl⟩
  | some severity => exact ⟨_, rfl⟩

theorem report_answer (name : String) (rows : Nat) (results : List (Except SqlError UInt64))
    (st : State) : ((executor config).report name rows results st).1 = summary results := by
  unfold Executor.report summary
  cases failures 0 results with
  | nil => rfl
  | cons f rest => rfl

/-- A batch is reported of if it could be prepared and sent. -/
theorem execBatch_answer (w : Writer) (st : State) :
    ((executor config).execBatch w st).1 =
      st.preparing.bind fun _ => (st.sending w.groups).bind summary := by
  unfold Executor.execBatch
  rw [executor_config, bind_apply]
  have prepared : ∀ name, ((executor config).driver.prepare name w.text st).1 =
      st.preparing.map fun () => ⟨name, st.prepared + 1⟩ := fun _ => rfl
  have sent : ∀ name handle, ((executor config).driver.sendBatch handle w.groups
      ((executor config).driver.prepare name w.text st).2).1 = st.sending w.groups :=
    fun _ _ => rfl
  rw [prepared]
  cases st.preparing with
  | error e => rfl
  | ok _ =>
    -- the handle is dealt with between sending and reporting, and reports do not look at the state
    dsimp only [Except.map, Except.bind]
    rw [bind_apply, bind_apply, sent]
    cases st.sending w.groups with
    | error e => rfl
    | ok results => exact report_answer config _ _ _ _

/-- The answers to preparing and sending determine how a batch ends. -/
theorem execBatch_ends (w : Writer) (st : State)
    (fits : ∀ results, st.sending w.groups = .ok results → total results < 2 ^ 64) :
    Ends st.preparing (st.sending w.groups) ((executor config).execBatch w st).1 := by
  rw [execBatch_answer]
  cases st.preparing with
  | error e => exact .unprepared
  | ok _ =>
    cases sent : st.sending w.groups with
    | error e => exact .unsent
    | ok results => exact ends_summary (fits results sent)

section

variable {s : Stmt} {w : Writer} (built : s.build config.dialect = .ok w) (st : State)

include built

/-- Executing a statement with groups is executing the batch, after an event at most. -/
theorem exec_groups (groups : w.groups ≠ []) :
    ∃ events, (executor config).exec s st =
      (executor config).execBatch w { st with events := events } := by
  have some : (!w.groups.isEmpty) = true := by
    simpa using groups
  obtain ⟨events, logged⟩ := log_state config s.kind w st
  refine ⟨events, ?_⟩
  unfold Executor.exec
  rw [executor_config, built]
  dsimp only
  rw [bind_apply, logged, some, if_pos rfl]

/-- The answer to executing a statement with groups depends on two answers only. -/
theorem exec_groups_answer (groups : w.groups ≠ []) :
    ((executor config).exec s st).1 =
      st.preparing.bind fun _ => (st.sending w.groups).bind summary := by
  obtain ⟨events, batch⟩ := exec_groups config built st groups
  rw [batch, execBatch_answer]
  rfl

/-- Executing a statement with groups makes the calls of a batch. -/
theorem exec_groups_makes (groups : w.groups ≠ []) :
    Makes ((executor config).exec s) st (batchCalls config w st) := by
  obtain ⟨events, logged⟩ := log_state config s.kind w st
  have made := makes_exec_groups config built st groups
  rw [logged, prepare_answer] at made
  unfold batchCalls
  have same : ({ st with events := events } : State).preparing = st.preparing := rfl
  rw [same] at made
  generalize st.preparing = answer at made ⊢
  cases answer with
  | error e => exact made
  | ok _ => exact made

end

/-- A statement that cannot be rendered never reaches the driver.  One with groups is prepared,
sent with its groups in order and given back if the configuration says so; it ends as the first two
answers say. -/
theorem exec_batch_outcome (s : Stmt) (st : State) :
    (∀ e, s.build config.dialect = .error e → (executor config).exec s st = (.error e, st)) ∧
    ∀ w, s.build config.dialect = .ok w → w.groups ≠ [] →
      Makes ((executor config).exec s) st (batchCalls config w st) ∧
      ((∀ results, st.sending w.groups = .ok results → total results < 2 ^ 64) →
        Ends st.preparing (st.sending w.groups) ((executor config).exec s st).1) ∧
      ∀ deallocations, ((executor config).exec s { st with deallocations := deallocations }).1 =
        ((executor config).exec s st).1 := by
  constructor
  · intro e refused
    unfold Executor.exec
    rw [executor_config, refused]
    rfl
  · intro w built groups
    refine ⟨exec_groups_makes config built st groups, ?_, ?_⟩
    · intro fits
      obtain ⟨events, batch⟩ := exec_groups config built st groups
      rw [batch]
      exact execBatch_ends config w { st with events := events } fits
    · intro deallocations
      -- the answer depends on the queues for preparing and sending only
      rw [exec_groups_answer config built _ groups, exec_groups_answer config built _ groups]
      rfl

/-- An INSERT of three rows with a value each. -/
def insertThree : Stmt :=
  { kind := .insert, target := "t", insertColumns := ["a"]
    rows := [[.value (.int32 1)], [.value (.int32 1)], [.value (.int32 2)]] }

/-- Results of three rows, of which the second one failed. -/
def secondFailed : List (Except SqlError UInt64) :=
  [.ok 1, .error (.uniqueViolation "t_pkey: duplicate key"), .ok 2]

/-- Answers of a driver that refuses a row, and the handle when it is given back. -/
def duplicateKey : State :=
  { batches := [some (.ok secondFailed)]
    deallocations := [some (.error (.other "connection closed"))] }

/-- A batch with a failed row, and a statement that cannot be rendered. -/
theorem insertThree_outcome :
    (({} : Stmt).build .postgres = .error (.unsupported .kindNotSet) ∧
      (executor {}).exec {} duplicateKey = (.error (.unsupported .kindNotSet), duplicateKey)) ∧
    insertThree.build .postgres = .ok ⟨"INSERT INTO t (a) VALUES ($1)", [],
      [[.int32 1], [.int32 1], [.int32 2]]⟩ ∧
    Makes ((executor {}).exec insertThree) duplicateKey
      [.prepare (statementName "sql_" "INSERT INTO t (a) VALUES ($1)")
        "INSERT INTO t (a) VALUES ($1)",
        .batch ⟨statementName "sql_" "INSERT INTO t (a) VALUES ($1)", 1⟩
          [[.int32 1], [.int32 1], [.int32 2]],
        .deallocate ⟨statementName "sql_" "INSERT INTO t (a) VALUES ($1)", 1⟩] ∧
    ((executor {}).exec insertThree duplicateKey).1 =
      .error (.batch 3 [⟨1, .uniqueViolation "t_pkey: duplicate key"⟩]) := by
  have refused : ({} : Stmt).build .postgres = .error (.unsupported .kindNotSet) := by
    rfl
  have built : insertThree.build .postgres = .ok ⟨"INSERT INTO t (a) VALUES ($1)", [],
      [[.int32 1], [.int32 1], [.int32 2]]⟩ := by
    rfl
  obtain ⟨calls, ends, -⟩ := (exec_batch_outcome {} insertThree duplicateKey).2 _ built
    (List.cons_ne_nil _ _)
  refine ⟨⟨refused, (exec_batch_outcome {} {} duplicateKey).1 _ refused⟩, built, calls, ?_⟩
  -- the second of the three results failed, and the others counted three rows
  have fits : ∀ results, duplicateKey.sending [[.int32 1], [.int32 1], [.int32 2]] = .ok results →
      total results < 2 ^ 64 := by
    rintro _ ⟨⟩
    decide
  have failure : .error (.uniqueViolation "t_pkey: duplicate key") ∈ secondFailed :=
    .tail _ (.head _)
  exact (ends fits).unique (.incomplete failure rfl (lists_failures secondFailed))

end Playback

end SqlCompose
