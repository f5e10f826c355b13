import Mathlib.Data.List.Induction
import SqlCompose.Proofs.Postgres.Tasks

/-! # Where prepared statements come from

A name does not identify a statement, and tasks prepare different SQL under one name, in steps that
mix in any order.  All the same, whoever is given a handle is given one on a statement that the
server has prepared from the very SQL asked for; and what the registry holds was prepared from the
SQL that its entry records.

The proof keeps a table of answers beside the run (`AnsweredIn`).  The statement of every task and
of every entry is in the table under the right SQL (`TextsKept`), and no step spoils that
(`TextsKept.steps`).

Main statement: `statements_answer_own_sql`.
-/

namespace SqlCompose.Postgres

open Client Traffic

/-- In the course of the run a task asked the server to prepare this SQL, and this statement was the
answer. -/
def AnsweredIn (actions : List Action) (sql : String) (statement : Prepared) : Prop :=
  ∃ before i after t name register, actions = before ++ .advance i :: after ∧
    (run before).tasks[i]? = some t ∧ t.progress = .preparing (.missed name sql register) ∧
    (parse sql (run before).client).1 = .ok statement

/-- An answer stays one when the run goes on. -/
theorem AnsweredIn.concat {actions : List Action} {sql : String} {statement : Prepared}
    (h : AnsweredIn actions sql statement) (a : Action) :
    AnsweredIn (actions ++ [a]) sql statement := by
  rcases h with ⟨before, i, after, t, name, register, rfl, here, asks, answer⟩
  refine ⟨before, i, after ++ [a], t, name, register, ?_, here, asks, answer⟩
  rw [List.append_assoc, List.cons_append]

/-- The server answers with a statement for the SQL that it was asked for. -/
theorem AnsweredIn.sql_eq {actions : List Action} {sql : String} {statement : Prepared}
    (h : AnsweredIn actions sql statement) : statement.sql = sql := by
  rcases h with ⟨_, _, _, _, _, _, _, _, _, answer⟩
  exact (parse_eq_ok answer).1

/-! ## What a step keeps -/

variable {A B : String → Prepared → Prop}

/-- A task prepares its own SQL, and the statement it has got, if any, is an answer to it. -/
structure TextKept (A : String → Prepared → Prop) (sql : String) (p : Progress) : Prop where
  own : ∀ text, p.sql? = some text → text = sql
  statement : ∀ statement, p.statement? = some statement → A sql statement

/-- The entries of a registry are answers to the SQL they record. -/
def EntriesKept (A : String → Prepared → Prop) (r : Registry Handle) : Prop :=
  ∀ name entry, r.get? name = some entry → A entry.sql entry.statement.statement

/-- Every task and every entry of the registry has a statement for its own SQL. -/
structure TextsKept (A : String → Prepared → Prop) (s : Traffic) : Prop where
  task : ∀ t ∈ s.tasks, TextKept A t.sql t.progress
  entries : EntriesKept A s.client.registry

/-- With more that counts as an answer, nothing is lost. -/
theorem TextsKept.mono {s : Traffic} (h : TextsKept A s)
    (le : ∀ sql statement, A sql statement → B sql statement) : TextsKept B s := by
  constructor
  · intro t mem
    exact ⟨(h.task t mem).own, fun _ got => le _ _ ((h.task t mem).statement _ got)⟩
  · intro name entry found
    exact le _ _ (h.entries name entry found)

/-- A task that holds a handle needs an answer to its own SQL. -/
theorem textKept_holding {sql : String} {h : Handle} (answer : A sql h.statement) :
    TextKept A sql (.holding h) := by
  constructor
  · intro text got
    cases got
  · intro statement got
    cases got
    exact answer

/-- A task that has ended is not preparing any SQL. -/
theorem TextKept.of_ended {sql : String} {p : Progress} (ended : p.sql? = none)
    (answers : ∀ statement, p.statement? = some statement → A sql statement) :
    TextKept A sql p := by
  constructor
  · intro text got
    rw [ended] at got
    cases got
  · exact answers

/-- A task that goes on with the same SQL. -/
theorem TextKept.onward {sql text : String} {p p' : Progress} (kept : TextKept A sql p)
    (before : p.sql? = some text) (after : p'.sql? = some text)
    (answers : ∀ statement, p'.statement? = some statement → A text statement) :
    TextKept A sql p' := by
  have same : text = sql := kept.own text before
  constructor
  · intro text' got
    rw [after] at got
    cases got
    exact same
  · rw [← same]
    exact answers

/-- What is found under a name is an answer to the SQL that was looked up. -/
theorem EntriesKept.of_hit {r : Registry Handle} {name sql : String} {h : Handle}
    (kept : EntriesKept A r) (found : r.lookup name sql = .hit h) : A sql h.statement :=
  kept name ⟨sql, h⟩ (Registry.lookup_eq_hit found)

/-- A registration needs an answer to the SQL that it records. -/
theorem EntriesKept.insert {r : Registry Handle} (kept : EntriesKept A r) {sql : String}
    {h : Handle} (answer : A sql h.statement) (name : String) :
    EntriesKept A (r.insert name ⟨sql, h⟩) := by
  intro name' entry found
  rw [KeyMap.get?_insert] at found
  split at found
  · cases found
    exact answer
  · exact kept name' entry found

/-- A task that moves keeps to its SQL, and so does the registry. -/
theorem Moves.textKept {c c' : Client} {p p' : Progress} {sql : String}
    (moves : Moves c p c' p') (kept : TextKept A sql p) (entries : EntriesKept A c.registry)
    (asked : ∀ name text register statement, p = .preparing (.missed name text register) →
      (parse text c).1 = .ok statement → A text statement) :
    TextKept A sql p' ∧ EntriesKept A c'.registry := by
  -- only a new registration changes the registry
  have unchanged : c'.registry = c.registry → EntriesKept A c'.registry := by
    intro same
    rw [same]
    exact entries
  cases moves with
  | hit found books =>
    -- what is found was registered for the SQL that was looked up
    have same := kept.own _ rfl
    have answer := entries.of_hit found
    exact ⟨textKept_holding (same ▸ answer), unchanged (registry_eq books)⟩
  | missed books =>
    refine ⟨kept.onward rfl rfl ?_, unchanged (registry_eq books)⟩
    intro statement got
    cases got
  | refused answer books =>
    refine ⟨.of_ended rfl ?_, unchanged (registry_eq books)⟩
    intro statement got
    cases got
  | answered answer new books =>
    refine ⟨kept.onward rfl rfl ?_, unchanged (registry_eq books)⟩
    intro statement got
    cases got
    -- here the answer comes, to the SQL that was asked
    exact asked _ _ _ _ rfl answer
  | numbered books =>
    have same := kept.own _ rfl
    refine ⟨kept.onward rfl rfl ?_, unchanged (registry_eq books)⟩
    intro statement got
    cases got
    exact same ▸ kept.statement _ rfl
  | unregistered books =>
    exact ⟨textKept_holding (kept.statement _ rfl), unchanged (registry_eq books)⟩
  | joined found books =>
    have same := kept.own _ rfl
    have answer := entries.of_hit found
    exact ⟨textKept_holding (same ▸ answer), unchanged (registry_eq books)⟩
  | entered free books =>
    have same := kept.own _ rfl
    have answer := kept.statement _ rfl
    refine ⟨textKept_holding answer, ?_⟩
    rw [registry_eq books]
    -- the entry records the SQL of the task, to which its statement is an answer
    exact entries.insert (same ▸ answer) _
  | barred books =>
    exact ⟨textKept_holding (kept.statement _ rfl), unchanged (registry_eq books)⟩
  | @finished n result =>
    refine ⟨?_, entries⟩
    cases result with
    | ok h => exact textKept_holding (kept.statement _ rfl)
    | error e => exact .of_ended rfl fun _ got => nomatch got

/-! ## What a run keeps -/

/-- A client with the same registry, and tasks of which one is new. -/
theorem TextsKept.concat {s : Traffic} (kept : TextsKept A s) {c : Client} {t : Task}
    (books : c.books = s.client.books) (new : TextKept A t.sql t.progress) :
    TextsKept A ⟨c, s.tasks ++ [t]⟩ := by
  constructor
  · intro u mem
    rcases List.mem_append.1 mem with mem | mem
    · exact kept.task u mem
    · rw [List.mem_singleton] at mem
      subst mem
      exact new
  · show EntriesKept A c.registry
    rw [registry_eq books]
    exact kept.entries

/-- Tasks of which one has changed. -/
theorem TextsKept.set {s : Traffic} (kept : TextsKept A s) {c : Client} {i : Nat} {t : Task}
    (changed : TextKept A t.sql t.progress) (entries : EntriesKept A c.registry) :
    TextsKept A ⟨c, s.tasks.set i t⟩ := by
  constructor
  · intro u mem
    rcases List.mem_or_eq_of_mem_set mem with mem | rfl
    · exact kept.task u mem
    · exact changed
  · exact entries

/-- Every action keeps the statements with their SQL. -/
theorem TextsKept.steps {actions : List Action}
    (kept : TextsKept (AnsweredIn actions) (run actions)) {a : Action} {s : Traffic}
    (steps : (run actions).Steps a s) : TextsKept (AnsweredIn (actions ++ [a])) s := by
  have kept' : TextsKept (AnsweredIn (actions ++ [a])) (run actions) :=
    kept.mono fun sql statement answer => answer.concat a
  cases steps with
  | start =>
    refine kept'.concat rfl ⟨?_, fun _ got => nomatch got⟩
    intro text got
    cases got
    rfl
  | @advance i name sql p p' c here moves =>
    have mem : (⟨name, sql, p⟩ : Task) ∈ (run actions).tasks := List.mem_of_getElem? here
    have moved := moves.textKept (kept'.task _ mem) kept'.entries ?_
    · exact kept'.set moved.1 moved.2
    · -- the answer comes at the end of the run
      rintro name' text register statement rfl answer
      exact ⟨actions, i, [], _, name', register, rfl, here, rfl, answer⟩
  | copy here books =>
    have mem := List.mem_of_getElem? here
    exact kept'.concat books (textKept_holding ((kept'.task _ mem).statement _ rfl))
  | giveBack here books =>
    have mem := List.mem_of_getElem? here
    refine kept'.set (.of_ended rfl (kept'.task _ mem).statement) ?_
    intro name entry found
    rw [registry_eq books] at found
    -- what is left in the registry was there before
    exact kept'.entries name entry (Registry.get?_removeIf.1 found).1
  | rescript books =>
    exact ⟨kept'.task, (registry_eq books).symm ▸ kept'.entries⟩
  | idle => exact kept'

/-- After every run all statements are with their own SQL. -/
theorem textsKept_run (actions : List Action) : TextsKept (AnsweredIn actions) (run actions) := by
  -- by the last action, because the table grows at the end of the run
  induction actions using List.reverseRecOn with
  | nil =>
    constructor
    · intro t mem
      cases mem
    · intro name entry found
      cases found
  | append_singleton actions a ih =>
    rw [run_concat]
    exact ih.steps (steps_step _ a)

/-! ## The SQL of every statement -/

/-- A refusal ends the preparation with its error. -/
theorem Client.request_eq_error (name : String) {sql : String} (register : Bool) {c : Client}
    {e : SqlError} (refused : (parse sql c).1 = .error e) :
    request name sql register c = (.finished (.error e), (parse sql c).2) := by
  rw [request, bind_apply, refused]
  rfl

/-- When the server prepares nothing, its error is what the task gets. -/
theorem Traffic.advance_refused {s : Traffic} {i : Nat} {name sql name' text : String}
    {register : Bool} {e : SqlError}
    (here : s.tasks[i]? = some ⟨name, sql, .preparing (.missed name' text register)⟩)
    (refused : (parse text s.client).1 = .error e) :
    s.step (.advance i) = ⟨(parse text s.client).2, s.tasks.set i ⟨name, sql, .failed e⟩⟩ := by
  have moved := request_eq_error name' register refused
  show s.advance i = _
  rw [advance, here]
  show (⟨(request name' text register s.client).2,
    s.tasks.set i ⟨name, sql, .of (request name' text register s.client).1⟩⟩ : Traffic) = _
  rw [moved]
  rfl

/-- Whatever the tasks do and in whichever order: a handle that a task was given is on a statement
that the server has prepared from the SQL of the task; the statement of an entry was prepared from
the SQL that the entry records; and a preparation that the server refuses ends with that error and
leaves the registry unchanged. -/
theorem statements_answer_own_sql (actions : List Action) :
    (∀ t ∈ (run actions).tasks, ∀ h, t.progress.returned? = some h →
      h.statement.sql = t.sql ∧ AnsweredIn actions t.sql h.statement) ∧
    (∀ name entry, (run actions).client.registry.get? name = some entry →
      entry.statement.statement.sql = entry.sql ∧
        AnsweredIn actions entry.sql entry.statement.statement) ∧
    ∀ i name sql name' text register e,
      (run actions).tasks[i]? = some ⟨name, sql, .preparing (.missed name' text register)⟩ →
      (parse text (run actions).client).1 = .error e →
      ((run actions).step (.advance i)).client.registry = (run actions).client.registry ∧
        ((run actions).step (.advance i)).tasks =
          (run actions).tasks.set i ⟨name, sql, .failed e⟩ := by
  have kept := textsKept_run actions
  refine ⟨?_, ?_, ?_⟩
  · intro t mem h returned
    have got : t.progress.statement? = some h.statement :=
      Progress.statement?_of_handle? (Progress.handle?_of_returned? returned)
    have answer := (kept.task t mem).statement h.statement got
    exact ⟨answer.sql_eq, answer⟩
  · intro name entry found
    have answer := kept.entries name entry found
    exact ⟨answer.sql_eq, answer⟩
  · intro i name sql name' text register e here refused
    -- the books stay as they are, and the registry with them
    rw [advance_refused here refused]
    exact ⟨registry_eq (parse_eq_error refused), rfl⟩

/-- Two tasks prepare different SQL under one name, in turns; then a third asks for SQL that the
server refuses. -/
def collision : List Action :=
  [.start "q" "SELECT 1", .start "q" "SELECT 2", .advance 0, .advance 1, .advance 1, .advance 0,
    .advance 0, .advance 1, .advance 0, .advance 1, .start "q" "SELECT", .advance 2,
    .rescript [⟨"SELECT", [], [], some ⟨"42601", "syntax error", none⟩, []⟩]]

/-- The statement that was prepared first came too late for its name. -/
theorem collision_answers_own_sql :
    ((⟨"q", "SELECT 2", .holding ⟨"q", 1, ⟨1, "SELECT 2", [], []⟩⟩⟩ : Task) ∈
        (run collision).tasks ∧
      AnsweredIn collision "SELECT 2" ⟨1, "SELECT 2", [], []⟩) ∧
    ((run collision).client.registry.get? "q" =
        some ⟨"SELECT 1", ⟨"q", 0, ⟨2, "SELECT 1", [], []⟩⟩⟩ ∧
      AnsweredIn collision "SELECT 1" ⟨2, "SELECT 1", [], []⟩) ∧
    ((parse "SELECT" (run collision).client).1 = .error (.query (.database "42601")) ∧
      ((run collision).step (.advance 2)).client.registry = (run collision).client.registry) := by
  have entry : (run collision).client.registry.get? "q" =
      some ⟨"SELECT 1", ⟨"q", 0, ⟨2, "SELECT 1", [], []⟩⟩⟩ := rfl
  have refused : (parse "SELECT" (run collision).client).1 =
      .error (.query (.database "42601")) := rfl
  have mem : (⟨"q", "SELECT 2", .holding ⟨"q", 1, ⟨1, "SELECT 2", [], []⟩⟩⟩ : Task) ∈
      (run collision).tasks := List.mem_of_getElem? (i := 1) rfl
  have own := statements_answer_own_sql collision
  exact ⟨⟨mem, (own.1 _ mem _ rfl).2⟩, ⟨entry, (own.2.1 _ _ entry).2⟩,
    ⟨refused, (own.2.2 2 _ _ _ _ _ _ rfl refused).1⟩⟩

end SqlCompose.Postgres
