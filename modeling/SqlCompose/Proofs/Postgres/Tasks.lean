import SqlCompose.Postgres.Client

/-! # Tasks that share a client

Any number of tasks prepare statements through one client and give the handles back.  Between two
steps of a task those of any other may happen, and the server may change its mind about what it will
answer.  A run is a list of actions, made in order: every such list is an interleaving, and every
interleaving is such a list.  An action that is not possible changes nothing.

Of a client only its books matter here: the registry, the next number of a handle, and how many
statements the server has prepared.

Main statements: `moves_step`, which says once what a step of a preparation can do to the books, and
`steps_step`, which says what an action can do to the client and its tasks.
-/

namespace SqlCompose.Postgres

open Client

/-! ## The books of a client -/

/-- What a client keeps track of. -/
structure Books where
  registry : Registry Handle
  nextId : UInt64
  /-- How many statements the server has prepared. -/
  prepared : Nat

def Client.books (c : Client) : Books :=
  ⟨c.registry, c.nextId, c.server.prepared⟩

namespace Client

theorem registry_eq {c : Client} {b : Books} (books : c.books = b) : c.registry = b.registry :=
  congrArg Books.registry books

theorem nextId_eq {c : Client} {b : Books} (books : c.books = b) : c.nextId = b.nextId :=
  congrArg Books.nextId books

theorem bind_apply {α β : Type} (a : Dialogue α) (next : α → Dialogue β) (c : Client) :
    (a >>= next) c = next (a c).1 (a c).2 := rfl

theorem get_apply (c : Client) : (get : Dialogue Client) c = (c, c) := rfl

/-- Another handle on a statement is not in the books. -/
theorem books_retain (h : Handle) (c : Client) : (retain h c).2.books = c.books := rfl

/-- Nor is letting go of one, even if the statement is closed with it. -/
theorem books_release (h : Handle) (c : Client) : (release h c).2.books = c.books := by
  show Client.books (if _ then _ else _) = _
  split
  · rfl
  · rfl

theorem books_emit (event : Event) (c : Client) : (emit event c).2.books = c.books := rfl

end Client

/-- A statement that the server prepares has the SQL that was asked and the next number. -/
theorem Server.prepare_eq_ok {s : Server} {sql : String} {statement : Prepared}
    (h : (s.prepare sql).1 = .ok statement) :
    statement.sql = sql ∧ statement.number = s.prepared + 1 ∧
      (s.prepare sql).2.prepared = s.prepared + 1 := by
  unfold Server.prepare at h ⊢
  cases refusal : (s.entry sql).refusal with
  | some e =>
    simp only [refusal] at h
    cases h
  | none =>
    simp only [refusal] at h ⊢
    cases h
    exact ⟨rfl, rfl, rfl⟩

/-- A refusal is not counted. -/
theorem Server.prepare_eq_error {s : Server} {sql : String} {e : ServerError}
    (h : (s.prepare sql).1 = .error e) : (s.prepare sql).2.prepared = s.prepared := by
  unfold Server.prepare at h ⊢
  cases refusal : (s.entry sql).refusal with
  | some _ =>
    simp only [refusal]
    rfl
  | none =>
    simp only [refusal] at h
    cases h

namespace Client

/-- A text that can be sent is answered by the server. -/
theorem parse_sendable {sql : String} (h : isSendable sql = true) (c : Client) :
    parse sql c = ((c.server.prepare sql).1.mapError (·.toError),
      { c with server := (c.server.prepare sql).2 }) := by
  unfold parse
  rw [if_pos h]
  rfl

/-- A text that cannot be sent is an error that the server does not hear of. -/
theorem parse_unsendable {sql : String} (h : ¬isSendable sql = true) (c : Client) :
    parse sql c = (.error (.query .unsendable), c) := by
  unfold parse
  rw [if_neg h]
  rfl

/-- A statement that the server has prepared is a new one, for the SQL that was asked. -/
theorem parse_eq_ok {sql : String} {c : Client} {statement : Prepared}
    (h : (parse sql c).1 = .ok statement) :
    statement.sql = sql ∧ statement.number = c.books.prepared + 1 ∧
      (parse sql c).2.books = { c.books with prepared := c.books.prepared + 1 } := by
  -- a text that cannot be sent is answered with an error
  by_cases sendable : isSendable sql = true
  · rw [parse_sendable sendable] at h ⊢
    cases answer : (c.server.prepare sql).1 with
    | error e =>
      rw [answer] at h
      cases h
    | ok prepared =>
      rw [answer] at h
      cases h
      -- the server counts one statement more, and the rest of the books is the client's
      obtain ⟨text, number, count⟩ := Server.prepare_eq_ok answer
      refine ⟨text, number, ?_⟩
      simp only [books, count]
  · rw [parse_unsendable sendable] at h
    cases h

/-- When the server prepares nothing, the books stay as they are. -/
theorem parse_eq_error {sql : String} {c : Client} {e : SqlError}
    (h : (parse sql c).1 = .error e) : (parse sql c).2.books = c.books := by
  by_cases sendable : isSendable sql = true
  · rw [parse_sendable sendable] at h ⊢
    cases answer : (c.server.prepare sql).1 with
    | error e =>
      simp only [books, Server.prepare_eq_error answer]
    | ok prepared =>
      rw [answer] at h
      cases h
  · rw [parse_unsendable sendable]

/-- What is given back leaves the registry if it is what stands there under its name. -/
theorem books_deallocate (h : Handle) (c : Client) :
    (deallocate h c).2.books =
      { c.books with registry := (c.registry.removeIf h.name (·.id == h.id)).2 } := by
  rw [deallocate, bind_apply, get_apply]
  -- the handle is let go of twice if the registry held one as well
  cases removed : (c.registry.removeIf h.name (·.id == h.id)).1 with
  | true =>
    simp only [removed]
    exact (books_release h _).trans (books_release h _)
  | false =>
    simp only [removed]
    exact books_release h _

end Client

/-! ## Tasks -/

/-- How far a task has come. -/
inductive Progress where
  | preparing {n : Nat} (p : Preparation (n + 1))
  /-- The preparation has ended with an error. -/
  | failed (e : SqlError)
  /-- The preparation has ended with this handle. -/
  | holding (h : Handle)
  /-- The handle has been given back. -/
  | settled (h : Handle)

/-- How far a task has come when this is left of its preparation. -/
def Progress.of : {n : Nat} → Preparation n → Progress
  | _, .finished (.ok h) => .holding h
  | _, .finished (.error e) => .failed e
  | _ + 1, p => .preparing p

/-- The SQL that is being prepared, as long as it is. -/
def Client.Preparation.sql? : {n : Nat} → Preparation n → Option String
  | _, .started _ sql => some sql
  | _, .missed _ sql _ => some sql
  | _, .answered _ sql _ _ => some sql
  | _, .numbered sql _ => some sql
  | _, .finished _ => none

/-- The handle that has been made or found. -/
def Client.Preparation.handle? : {n : Nat} → Preparation n → Option Handle
  | _, .numbered _ h => some h
  | _, .finished (.ok h) => some h
  | _, _ => none

/-- The statement that the server has prepared, or that was found. -/
def Client.Preparation.statement? : {n : Nat} → Preparation n → Option Prepared
  | _, .answered _ _ _ statement => some statement
  | _, .numbered _ h => some h.statement
  | _, .finished (.ok h) => some h.statement
  | _, _ => none

/-- A preparation with a handle has the statement of that handle. -/
theorem Client.Preparation.statement?_of_handle? {n : Nat} {p : Preparation n} {h : Handle}
    (got : p.handle? = some h) : p.statement? = some h.statement := by
  cases p with
  | numbered sql _ =>
    cases got
    rfl
  | finished result =>
    cases result with
    | error _ => cases got
    | ok _ =>
      cases got
      rfl
  | _ => cases got

namespace Progress

def sql? : Progress → Option String
  | preparing p => p.sql?
  | _ => none

/-- The handle that the preparation has returned. -/
def returned? : Progress → Option Handle
  | holding h => some h
  | settled h => some h
  | _ => none

/-- The handle that the task has got so far. -/
def handle? : Progress → Option Handle
  | preparing p => p.handle?
  | failed _ => none
  | holding h => some h
  | settled h => some h

/-- The statement that the task has got so far. -/
def statement? : Progress → Option Prepared
  | preparing p => p.statement?
  | failed _ => none
  | holding h => some h.statement
  | settled h => some h.statement

/-- A task with a handle has the statement of that handle. -/
theorem statement?_of_handle? {p : Progress} {h : Handle} (got : p.handle? = some h) :
    p.statement? = some h.statement := by
  cases p with
  | preparing p => exact Preparation.statement?_of_handle? got
  | failed _ => cases got
  | holding _ =>
    cases got
    rfl
  | settled _ =>
    cases got
    rfl

/-- A handle that was returned is the one that the task has got. -/
theorem handle?_of_returned? {p : Progress} {h : Handle} (returned : p.returned? = some h) :
    p.handle? = some h := by
  cases p with
  | preparing _ => cases returned
  | failed _ => cases returned
  | holding _ => exact returned
  | settled _ => exact returned

end Progress

/-- A task that prepares SQL under a name. -/
structure Task where
  name : String
  sql : String
  progress : Progress

/-- Tasks that share a client. -/
structure Traffic where
  client : Client := {}
  tasks : List Task := []

/-- What can happen next. -/
inductive Action where
  /-- A new task starts to prepare SQL under a name. -/
  | start (name sql : String)
  /-- A task takes the next step of its preparation. -/
  | advance (task : Nat)
  /-- The handle of a task is copied. -/
  | copy (task : Nat)
  /-- A task gives its handle back. -/
  | giveBack (task : Nat)
  /-- The server changes its mind about what it will answer. -/
  | rescript (script : List ScriptEntry)

namespace Traffic

/-- Let a task that is preparing take the next step. -/
def advance (s : Traffic) (i : Nat) : Traffic :=
  match s.tasks[i]? with
  | some ⟨name, sql, .preparing p⟩ =>
    let (left, client) := p.step s.client
    ⟨client, s.tasks.set i ⟨name, sql, .of left⟩⟩
  | _ => s

def copy (s : Traffic) (i : Nat) : Traffic :=
  match s.tasks[i]? with
  | some ⟨name, sql, .holding h⟩ =>
    ⟨(retain h s.client).2, s.tasks ++ [⟨name, sql, .holding h⟩]⟩
  | _ => s

def giveBack (s : Traffic) (i : Nat) : Traffic :=
  match s.tasks[i]? with
  | some ⟨name, sql, .holding h⟩ =>
    ⟨(deallocate h s.client).2, s.tasks.set i ⟨name, sql, .settled h⟩⟩
  | _ => s

/-- Take an action. -/
def step (s : Traffic) : Action → Traffic
  | .start name sql => { s with tasks := s.tasks ++ [⟨name, sql, .preparing (.started name sql)⟩] }
  | .advance i => s.advance i
  | .copy i => s.copy i
  | .giveBack i => s.giveBack i
  | .rescript script => { s with client.server.script := script }

/-- Take actions in order, from a new client without tasks. -/
def run (actions : List Action) : Traffic :=
  actions.foldl step {}

end Traffic

/-! ## What a step can do -/

/-- A step of a preparation, by what it finds and what it does to the books. -/
inductive Moves (c : Client) : Progress → Client → Progress → Prop where
  /-- The name stands for the SQL. -/
  | hit {name sql : String} {h : Handle} {c' : Client}
      (found : c.registry.lookup name sql = .hit h) (books : c'.books = c.books) :
      Moves c (.preparing (.started name sql)) c' (.holding h)
  /-- The name does not stand for the SQL. -/
  | missed {name sql : String} {register : Bool} {c' : Client} (books : c'.books = c.books) :
      Moves c (.preparing (.started name sql)) c' (.preparing (.missed name sql register))
  | refused {name sql : String} {register : Bool} {e : SqlError} {c' : Client}
      (answer : (parse sql c).1 = .error e) (books : c'.books = c.books) :
      Moves c (.preparing (.missed name sql register)) c' (.failed e)
  | answered {name sql : String} {register : Bool} {statement : Prepared} {c' : Client}
      (answer : (parse sql c).1 = .ok statement) (new : statement.number = c.books.prepared + 1)
      (books : c'.books = { c.books with prepared := c.books.prepared + 1 }) :
      Moves c (.preparing (.missed name sql register)) c'
        (.preparing (.answered name sql register statement))
  | numbered {name sql : String} {statement : Prepared} {c' : Client}
      (books : c'.books = { c.books with nextId := c.books.nextId + 1 }) :
      Moves c (.preparing (.answered name sql true statement)) c'
        (.preparing (.numbered sql ⟨name, c.books.nextId, statement⟩))
  /-- The handle is not to be registered. -/
  | unregistered {name sql : String} {statement : Prepared} {c' : Client}
      (books : c'.books = { c.books with nextId := c.books.nextId + 1 }) :
      Moves c (.preparing (.answered name sql false statement)) c'
        (.holding ⟨name, c.books.nextId, statement⟩)
  /-- Another handle was registered for the same SQL meanwhile. -/
  | joined {sql : String} {h used : Handle} {c' : Client}
      (found : c.registry.lookup h.name sql = .hit used) (books : c'.books = c.books) :
      Moves c (.preparing (.numbered sql h)) c' (.holding used)
  | entered {sql : String} {h : Handle} {c' : Client}
      (free : c.registry.get? h.name = none)
      (books : c'.books = { c.books with registry := c.registry.insert h.name ⟨sql, h⟩ }) :
      Moves c (.preparing (.numbered sql h)) c' (.holding h)
  /-- The name was registered for other SQL meanwhile. -/
  | barred {sql : String} {h : Handle} {c' : Client} (books : c'.books = c.books) :
      Moves c (.preparing (.numbered sql h)) c' (.holding h)
  | finished {n : Nat} {result : Except SqlError Handle} :
      Moves c (.preparing (.finished result : Preparation (n + 1))) c
        (.of (.finished result : Preparation n))

/-! ### One lemma for each step -/

variable (c : Client)

/-- The first step finds the name or misses it. -/
theorem moves_lookUp (name sql : String) :
    Moves c (.preparing (.started name sql)) (lookUp name sql c).2 (.of (lookUp name sql c).1) := by
  rw [lookUp, bind_apply, get_apply]
  cases found : c.registry.lookup name sql with
  | hit h => exact .hit found (books_retain h c)
  | miss => exact .missed rfl
  | collision => exact .missed (books_emit _ c)

/-- The second step asks the server, whose answer may be an error. -/
theorem moves_request (name sql : String) (register : Bool) :
    Moves c (.preparing (.missed name sql register)) (request name sql register c).2
      (.of (request name sql register c).1) := by
  rw [request, bind_apply]
  -- what the server refuses leaves no statement
  cases answer : (parse sql c).1 with
  | error e => exact .refused answer (parse_eq_error answer)
  | ok statement =>
    obtain ⟨_, new, books⟩ := parse_eq_ok answer
    exact .answered answer new books

/-- The third step takes a number, whether or not the handle is to be registered. -/
theorem moves_number (name sql : String) (register : Bool) (statement : Prepared) :
    Moves c (.preparing (.answered name sql register statement))
      (number name sql register statement c).2 (.of (number name sql register statement c).1) := by
  cases register with
  | true => exact .numbered rfl
  | false => exact .unregistered rfl

/-- The last step registers the handle, or uses the one that was registered for the same SQL
meanwhile, or leaves the name to other SQL. -/
theorem moves_enter (sql : String) (h : Handle) :
    Moves c (.preparing (.numbered sql h)) (enter sql h c).2 (.of (enter sql h c).1) := by
  rw [enter, bind_apply, get_apply]
  -- the name is looked up again, because other tasks have moved meanwhile
  cases found : c.registry.lookup h.name sql with
  | hit used =>
    simp only [Registry.insertIfAbsent, found]
    exact .joined found ((books_release h _).trans (books_retain used _))
  | miss =>
    simp only [Registry.insertIfAbsent, found]
    exact .entered (Registry.lookup_eq_miss found) rfl
  | collision =>
    simp only [Registry.insertIfAbsent, found]
    exact .barred rfl

/-- Every step of a preparation is a move. -/
theorem moves_step {n : Nat} (p : Preparation (n + 1)) :
    Moves c (.preparing p) (p.step c).2 (.of (p.step c).1) := by
  cases p with
  | started name sql => exact moves_lookUp c name sql
  | missed name sql register => exact moves_request c name sql register
  | answered name sql register statement => exact moves_number c name sql register statement
  | numbered sql h => exact moves_enter c sql h
  | finished result => exact .finished

/-- What an action can do: it lets a task move, or makes a new one, or nothing. -/
inductive Traffic.Steps (s : Traffic) : Action → Traffic → Prop where
  | start {name sql : String} :
      Steps s (.start name sql)
        ⟨s.client, s.tasks ++ [⟨name, sql, .preparing (.started name sql)⟩]⟩
  | advance {i : Nat} {name sql : String} {p p' : Progress} {c : Client}
      (here : s.tasks[i]? = some ⟨name, sql, p⟩) (moves : Moves s.client p c p') :
      Steps s (.advance i) ⟨c, s.tasks.set i ⟨name, sql, p'⟩⟩
  | copy {i : Nat} {name sql : String} {h : Handle} {c : Client}
      (here : s.tasks[i]? = some ⟨name, sql, .holding h⟩) (books : c.books = s.client.books) :
      Steps s (.copy i) ⟨c, s.tasks ++ [⟨name, sql, .holding h⟩]⟩
  | giveBack {i : Nat} {name sql : String} {h : Handle} {c : Client}
      (here : s.tasks[i]? = some ⟨name, sql, .holding h⟩)
      (books : c.books = { s.client.books with
        registry := (s.client.registry.removeIf h.name (·.id == h.id)).2 }) :
      Steps s (.giveBack i) ⟨c, s.tasks.set i ⟨name, sql, .settled h⟩⟩
  | rescript {script : List ScriptEntry} {c : Client} (books : c.books = s.client.books) :
      Steps s (.rescript script) ⟨c, s.tasks⟩
  | idle {a : Action} : Steps s a s

namespace Traffic

/-- Only a task that is preparing something moves. -/
theorem steps_advance (s : Traffic) (i : Nat) : s.Steps (.advance i) (s.advance i) := by
  unfold advance
  -- what is no preparation stays as it is
  split
  · rename_i here
    exact .advance here (moves_step s.client _)
  · exact .idle

/-- Only a handle that a task holds is copied. -/
theorem steps_copy (s : Traffic) (i : Nat) : s.Steps (.copy i) (s.copy i) := by
  unfold copy
  split
  · rename_i here
    exact .copy here (books_retain _ s.client)
  · exact .idle

/-- Only a handle that a task holds is given back. -/
theorem steps_giveBack (s : Traffic) (i : Nat) : s.Steps (.giveBack i) (s.giveBack i) := by
  unfold giveBack
  split
  · rename_i here
    exact .giveBack here (books_deallocate _ s.client)
  · exact .idle

/-- Every action does what is said of it, or nothing at all. -/
theorem steps_step (s : Traffic) (a : Action) : s.Steps a (s.step a) := by
  cases a with
  | start name sql => exact .start
  | advance i => exact steps_advance s i
  | copy i => exact steps_copy s i
  | giveBack i => exact steps_giveBack s i
  | rescript script => exact .rescript rfl

theorem run_concat (actions : List Action) (a : Action) :
    run (actions ++ [a]) = (run actions).step a := by
  rw [run, List.foldl_append]
  rfl

end Traffic

end SqlCompose.Postgres
