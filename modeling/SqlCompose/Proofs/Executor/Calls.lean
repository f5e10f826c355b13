import SqlCompose.Executor
import SqlCompose.Executor.Playback

/-! # The calls of an executor

An executor over the driver that plays back answers leaves in the transcript what it asked of the
driver.  Since the answers to come are part of the state the driver starts in, a statement about
every state is a statement about every sequence of answers.

Main statements: the calls that executing a statement makes, when it is rendered with groups
(`makes_exec_groups`) and without (`makes_exec_flat`).
-/

namespace SqlCompose

namespace Playback

variable {α β : Type}

/-- From a state on, the action makes these calls. -/
def Makes (action : Session α) (st : State) (calls : List DriverCall) : Prop :=
  (action st).2.calls = st.calls ++ calls

/-- The calls that an action makes are determined. -/
theorem Makes.unique {action : Session α} {st : State} {calls calls' : List DriverCall}
    (h : Makes action st calls) (h' : Makes action st calls') : calls = calls' :=
  List.append_cancel_left (h.symm.trans h')

theorem bind_apply (action : Session α) (next : α → Session β) (st : State) :
    (action >>= next) st = next (action st).1 (action st).2 := rfl

/-- The calls of an action, and then those of what follows. -/
theorem Makes.bind {action : Session α} {next : α → Session β} {st : State}
    {calls calls' : List DriverCall} (h : Makes action st calls)
    (hnext : Makes (next (action st).1) (action st).2 calls') :
    Makes (action >>= next) st (calls ++ calls') := by
  unfold Makes at h hnext ⊢
  rw [bind_apply, hnext, h, List.append_assoc]

theorem Makes.pure (a : α) (st : State) : Makes (Pure.pure a) st [] :=
  (List.append_nil _).symm

/-- An action without calls, in front of others. -/
theorem Makes.behind_silent {action : Session α} {next : α → Session β} {st : State}
    {calls : List DriverCall} (h : Makes action st [])
    (hnext : Makes (next (action st).1) (action st).2 calls) :
    Makes (action >>= next) st calls :=
  h.bind hnext

/-- What is done with the answer makes no calls. -/
theorem Makes.before_silent {action : Session α} {next : α → Session β} {st : State}
    {calls : List DriverCall} (h : Makes action st calls)
    (hnext : ∀ a st', Makes (next a) st' []) : Makes (action >>= next) st calls := by
  have whole := h.bind (hnext (action st).1 (action st).2)
  rw [List.append_nil] at whole
  exact whole

theorem makes_emit (event : Event) (st : State) : Makes (emit event) st [] :=
  (List.append_nil _).symm

theorem makes_exec (sql : String) (args : List Value) (st : State) :
    Makes (exec sql args) st [.exec sql args] := rfl

theorem makes_query (sql : String) (args : List Value) (st : State) :
    Makes (query sql args) st [.query sql args] := rfl

theorem makes_prepare (name sql : String) (st : State) :
    Makes (prepare name sql) st [.prepare name sql] := rfl

theorem makes_sendBatch (handle : Handle) (entries : List (List Value)) (st : State) :
    Makes (sendBatch handle entries) st [.batch handle entries] := rfl

theorem makes_deallocate (handle : Handle) (st : State) :
    Makes (deallocate handle) st [.deallocate handle] := rfl

/-- An executor over the driver that plays back answers. -/
def executor (config : ExecConfig) : Executor Session Handle :=
  { driver := driver, config := config, emit := emit }

theorem executor_config (config : ExecConfig) : (executor config).config = config := rfl

variable (config : ExecConfig)

/-- Logging makes no calls, whether or not it is configured. -/
theorem makes_log (kind : StmtKind) (w : Writer) (st : State) :
    Makes ((executor config).log kind w) st [] := by
  unfold Executor.log
  split
  · exact .pure () st
  · exact makes_emit _ st

/-- Reporting the results of a batch makes no calls. -/
theorem makes_report (name : String) (rows : Nat) (results : List (Except SqlError UInt64))
    (st : State) : Makes ((executor config).report name rows results) st [] := by
  unfold Executor.report
  split
  · exact .pure _ st
  · exact (makes_emit _ st).behind_silent (.pure _ _)

/-- The handle is given back if the configuration says so, and an error then is only reported. -/
theorem makes_finish (name : String) (handle : Handle) (st : State) :
    Makes ((executor config).finish name handle) st
      (if config.deallocateAfterBatch then [.deallocate handle] else []) := by
  unfold Executor.finish
  rw [executor_config]
  by_cases h : config.deallocateAfterBatch = true
  · rw [if_pos h, if_pos h]
    apply (makes_deallocate handle st).before_silent
    intro answer st'
    -- an error is reported, and no call follows
    cases answer with
    | ok _ => exact .pure () st'
    | error e => exact makes_emit _ st'
  · rw [if_neg h, if_neg h]
    exact .pure () st

/-- The statement is prepared, the batch sent with the handle, and the handle given back if the
configuration says so; if it cannot be prepared, that is all. -/
theorem makes_execBatch (w : Writer) (st : State) :
    Makes ((executor config).execBatch w) st
      (.prepare (statementName config.namePrefix w.text) w.text ::
        match (prepare (statementName config.namePrefix w.text) w.text st).1 with
        | .error _ => []
        | .ok handle => .batch handle w.groups ::
            if config.deallocateAfterBatch then [.deallocate handle] else []) := by
  unfold Executor.execBatch
  rw [executor_config]
  apply (makes_prepare _ w.text st).bind
  -- without a handle there is nothing to send
  cases (prepare (statementName config.namePrefix w.text) w.text st).1 with
  | error e => exact .pure _ _
  | ok handle =>
    apply (makes_sendBatch handle w.groups _).bind
    apply (makes_finish config _ handle _).before_silent
    intro _ st'
    split
    · exact .pure _ st'
    · exact makes_report config _ _ _ st'

/-- Where no answers are set, everything can be prepared. -/
theorem prepare_plain (kind : StmtKind) (w : Writer) (name sql : String) :
    (prepare name sql (((executor {}).log kind w) {}).2).1 = .ok ⟨name, 1⟩ := rfl

/-! ## Executing a statement -/

section

variable {s : Stmt} {w : Writer} (built : s.build config.dialect = .ok w) (st : State)

include built

/-- A statement with groups is executed as a batch. -/
theorem makes_exec_groups (groups : w.groups ≠ []) :
    Makes ((executor config).exec s) st
      (.prepare (statementName config.namePrefix w.text) w.text ::
        match (prepare (statementName config.namePrefix w.text) w.text
          (((executor config).log s.kind w) st).2).1 with
        | .error _ => []
        | .ok handle => .batch handle w.groups ::
            if config.deallocateAfterBatch then [.deallocate handle] else []) := by
  have some : (!w.groups.isEmpty) = true := by
    simpa using groups
  unfold Executor.exec
  rw [executor_config, built]
  apply (makes_log config s.kind w st).behind_silent
  rw [some, if_pos rfl]
  exact makes_execBatch config w _

/-- A statement without groups is a query if it is a SELECT, and executed otherwise. -/
theorem makes_exec_flat (flat : w.groups = []) :
    Makes ((executor config).exec s) st
      [if s.kind = .select then .query w.text w.args else .exec w.text w.args] := by
  have none : (!w.groups.isEmpty) = false := by
    simpa using flat
  unfold Executor.exec
  rw [executor_config, built]
  apply (makes_log config s.kind w st).behind_silent
  rw [none, if_neg Bool.false_ne_true]
  -- only a SELECT is a query
  cases s.kind with
  | select =>
    apply (makes_query w.text w.args _).before_silent
    intro answer st'
    exact .pure _ st'
  | _ => exact makes_exec w.text w.args _

end

end Playback

end SqlCompose
