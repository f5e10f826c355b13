import SqlCompose.Proofs.Record.Caches
import SqlCompose.Proofs.Stmt.Alike

/-! # Statements do not show their caches

Calls look columns up in the cache of the statement, at the moment when they need them.  Which cache
that is, what has been resolved in it before and what happens to it between two calls does not show:
two runs of the same calls keep statements alike.

A run is compared with that of its bare calls, which choose no cache and between which nothing
happens.  All that is asked of caches is that they are sound, and calls keep them so, because what a
call does to caches is a history as well.

Main statements:

* `Stmt.Alike.agree_apply`: alike calls keep statements alike, whichever caches they use;
* `Stmt.Alike.agree_perform`: a run does to a statement what its bare calls do;
* `Stmt.write_perform`: runs of alike calls build statements that are written the same;
* `Stmt.caches_do_not_show`: what caches give, what they keep, and that it does not show.
-/

namespace SqlCompose

/-! ## Actions on caches -/

/-- The other caches are what a history makes of these. -/
def ColumnCaches.Reaches (types : Set RecordType) (cs cs' : ColumnCaches) : Prop :=
  ∃ history : List CacheEvent, (∀ e ∈ history, e.In types) ∧ cs' = cs.after history

namespace ColumnCaches

variable {types : Set RecordType} {cs cs' cs'' : ColumnCaches}

theorem Reaches.refl : cs.Reaches types cs :=
  ⟨[], List.forall_mem_nil _, rfl⟩

theorem Reaches.next {e : CacheEvent} (among : e.In types) : cs.Reaches types (cs.next e) :=
  ⟨[e], List.forall_mem_singleton.2 among, rfl⟩

/-- One history after another is a history. -/
theorem Reaches.trans (first : cs.Reaches types cs') (second : cs'.Reaches types cs'') :
    cs.Reaches types cs'' := by
  rcases first with ⟨earlier, amongEarlier, rfl⟩
  rcases second with ⟨later, amongLater, rfl⟩
  exact ⟨earlier ++ later, List.forall_mem_append.2 ⟨amongEarlier, amongLater⟩,
    (cs.after_append earlier later).symm⟩

theorem Reaches.sound (reaches : cs.Reaches types cs') (sound : cs.Sound types)
    (keys : Set.InjOn RecordType.key types) : cs'.Sound types := by
  rcases reaches with ⟨history, among, rfl⟩
  exact sound.after keys among

end ColumnCaches

namespace Building

variable {α β : Type} {types : Set RecordType} {R : α → α → Prop} {Q : β → β → Prop}

/-- Whichever sound caches they use, what the two actions give is so related, and what they do to
caches is a history. -/
def Agree (types : Set RecordType) (R : α → α → Prop) (b b' : Building α) : Prop :=
  ∀ cs cs' : ColumnCaches, cs.Sound types → cs'.Sound types →
    R (b cs).1 (b' cs').1 ∧ cs.Reaches types (b cs).2 ∧ cs'.Reaches types (b' cs').2

/-- Actions that look nothing up agree if what they give is related. -/
theorem Agree.pure {a a' : α} (related : R a a') : Agree types R (pure a) (pure a') :=
  fun _ _ _ _ => ⟨related, .refl, .refl⟩

/-- Actions that agree may be followed by actions that agree wherever the first ones are related. -/
theorem Agree.bind {b b' : Building α} {next next' : α → Building β}
    (keys : Set.InjOn RecordType.key types) (first : Agree types R b b')
    (then_ : ∀ a a', R a a' → Agree types Q (next a) (next' a')) :
    Agree types Q (b >>= next) (b' >>= next') := by
  intro cs cs' sound sound'
  rcases first cs cs' sound sound' with ⟨related, reached, reached'⟩
  -- what follows runs in the caches that the first actions leave, which are sound
  rcases then_ _ _ related _ _ (reached.sound sound keys) (reached'.sound sound' keys)
    with ⟨relatedThen, reachedThen, reachedThen'⟩
  exact ⟨relatedThen, reached.trans reachedThen, reached'.trans reachedThen'⟩

/-- The columns of a record type are the same, whichever cache they come from. -/
theorem agree_resolve (ref ref' : CacheRef) {t : RecordType} (member : t ∈ types) :
    Agree types Eq (ColumnCaches.resolve ref t) (ColumnCaches.resolve ref' t) := by
  intro cs cs' sound sound'
  refine ⟨?_, .next (e := .resolve ref t) member, .next (e := .resolve ref' t) member⟩
  rw [sound.resolve ref member, sound'.resolve ref' member]

end Building

open Building

/-! ## Calls that look columns up -/

/-- The record types of an input are among these. -/
def Data.In (types : Set RecordType) : Data → Prop
  | record r => r.type ∈ types
  | recordType t => t ∈ types
  | _ => True

/-- The record types that a call looks up are among these. -/
def Call.In (types : Set RecordType) : Call → Prop
  | insert d | update d | select d | values d | setAll d => d.In types
  | insertBulk ds | valuesBulk ds => ∀ d ∈ ds, d.In types
  | intoColumnsOf t | selectColumnsOf t => t ∈ types
  | _ => True

namespace Stmt

section

variable {types : Set RecordType}

theorem agree_start (kind : StmtKind) : ∀ s t : Stmt, s.Alike t →
    Agree types Alike (pure (s.start kind)) (pure (t.start kind)) :=
  fun _ _ h => .pure (h.start kind)

variable (keys : Set.InjOn RecordType.key types)

include keys

/-- Changes by the columns of a record type agree if they do for all columns. -/
theorem agree_columnsOf (s t : Stmt) {type : RecordType} (member : type ∈ types)
    {change change' : List String → Stmt}
    (changed : ∀ columns, (change columns).Alike (change' columns)) :
    Agree types Alike (do let columns ← s.columnsOf type; return change columns)
      (do let columns ← t.columnsOf type; return change' columns) := by
  refine (agree_resolve s.cache t.cache member).bind keys ?_
  rintro columns _ rfl
  exact .pure (changed columns)

variable {s t : Stmt} (h : s.Alike t)

include h

theorem Alike.agree_intoColumnsOf {type : RecordType} (member : type ∈ types) :
    Agree types Alike (s.intoColumnsOf type) (t.intoColumnsOf type) :=
  agree_columnsOf keys s t member h.intoColumns

theorem Alike.agree_selectColumnsOf {type : RecordType} (member : type ∈ types) :
    Agree types Alike (s.selectColumnsOf type) (t.selectColumnsOf type) :=
  agree_columnsOf keys s t member h.addSelectColumns

/-- Default columns are taken by both statements, or by neither. -/
theorem Alike.agree_defaultColumns {type : RecordType} (member : type ∈ types) :
    Agree types Alike (s.defaultColumns type) (t.defaultColumns type) := by
  unfold Stmt.defaultColumns
  rw [h.insertColumns_eq]
  split
  · exact h.agree_intoColumnsOf keys member
  · exact .pure h

/-- Rows of alike inputs are alike, and so are the columns taken with them. -/
theorem Alike.agree_values {d d' : Data} (inputs : d.Alike d') (among : d.In types) :
    Agree types Alike (s.values d) (t.values d') := by
  cases inputs with
  | nothing => exact .pure h
  | row values => exact .pure (h.addRow (map_write_of_alike values))
  | map entries => exact .pure ((h.columnsOfMap entries).addRow entries.write_values)
  | record r =>
    -- only a record's row needs its columns looked up
    exact (h.agree_defaultColumns keys among).bind keys fun _ _ alike =>
      .pure (alike.addRecordRow r)
  | stmt written => exact .pure (h.addStmt written none)
  | table _ | recordType _ => exact .pure (h.refuse _)

/-- Alike first rows give the same columns. -/
theorem Alike.agree_columnsFromFirst {d d' : Data} (inputs : d.Alike d') (among : d.In types) :
    Agree types Alike (s.columnsFromFirst d) (t.columnsFromFirst d') := by
  cases inputs with
  | @map m m' entries =>
    unfold Stmt.columnsFromFirst
    dsimp only
    rw [h.insertColumns_eq, entries.keys_eq]
    split
    · exact .pure (h.intoColumns m'.keys)
    · exact .pure h
  | record r => exact h.agree_defaultColumns keys among
  | _ => exact .pure h

theorem Alike.agree_valuesBulk {ds ds' : List Data} (inputs : List.Forall₂ Data.Alike ds ds')
    (among : ∀ d ∈ ds, d.In types) : Agree types Alike (s.valuesBulk ds) (t.valuesBulk ds') := by
  cases inputs with
  | nil => exact .pure h
  | cons first rest =>
    have taken := h.agree_columnsFromFirst keys first (among _ List.mem_cons_self)
    exact taken.bind keys fun _ _ alike => .pure (alike.addAll (.cons first rest))

/-- An INSERT takes a row, a table or both, and then the kind. -/
theorem Alike.agree_insert {d d' : Data} (inputs : d.Alike d') (among : d.In types) :
    Agree types Alike (s.insert d) (t.insert d') := by
  have valued := h.agree_values keys inputs among
  cases inputs with
  | nothing => exact (Agree.pure h).bind keys (agree_start .insert)
  | table name => exact (Agree.pure (h.withTarget name)).bind keys (agree_start .insert)
  -- a record names the table, too
  | record r =>
    exact valued.bind keys fun _ _ alike =>
      (Agree.pure (alike.setRecordTarget r.type)).bind keys (agree_start .insert)
  | recordType type =>
    exact (h.agree_intoColumnsOf keys among).bind keys fun _ _ alike =>
      (Agree.pure (alike.setRecordTarget type)).bind keys (agree_start .insert)
  | _ => exact valued.bind keys (agree_start .insert)

theorem Alike.agree_insertBulk {ds ds' : List Data} (inputs : List.Forall₂ Data.Alike ds ds')
    (among : ∀ d ∈ ds, d.In types) : Agree types Alike (s.insertBulk ds) (t.insertBulk ds') := by
  have tables : tableOfFirst? ds' = tableOfFirst? ds := by
    cases inputs with
    | nil => rfl
    | cons first _ =>
      cases first with
      | _ => rfl
  apply ((h.start .insert).agree_valuesBulk keys inputs among).bind keys
  intro u v alike
  rw [tables]
  split
  · next name _ => exact .pure (alike.withTarget name)
  · exact .pure alike

theorem Alike.agree_setAll {d d' : Data} (inputs : d.Alike d') (among : d.In types) :
    Agree types Alike (s.setAll d) (t.setAll d') := by
  cases inputs with
  | map entries =>
    apply Agree.pure
    apply h.assign
    rw [List.map_map, List.map_map]
    apply entries.map_eq
    intro column o o' operands
    show Assignment.write ⟨column, o⟩ = Assignment.write ⟨column, o'⟩
    rw [Assignment.write, Assignment.write, operands.write]
  | record r => exact agree_columnsOf keys s t among fun _ => h.assign rfl
  | _ => exact .pure (h.refuse _)

/-- An UPDATE takes assignments, a source or both, and then the kind. -/
theorem Alike.agree_update {d d' : Data} (inputs : d.Alike d') (among : d.In types) :
    Agree types Alike (s.update d) (t.update d') := by
  have sourced := h.source inputs none
  have assigned := h.agree_setAll keys inputs among
  cases inputs with
  | nothing => exact (Agree.pure h).bind keys (agree_start .update)
  | record r =>
    exact assigned.bind keys fun _ _ alike =>
      (Agree.pure (alike.source (.record r) none)).bind keys (agree_start .update)
  | map entries => exact assigned.bind keys (agree_start .update)
  | _ => exact (Agree.pure sourced).bind keys (agree_start .update)

/-- A SELECT of a record or its type takes the columns, any other its source. -/
theorem Alike.agree_select {d d' : Data} (inputs : d.Alike d') (among : d.In types) :
    Agree types Alike (s.select d) (t.select d') := by
  have sourced := h.source inputs none
  have ofType {type : RecordType} (member : type ∈ types) :
      Agree types Alike (s.select (.recordType type)) (t.select (.recordType type)) :=
    (h.agree_selectColumnsOf keys member).bind keys fun _ _ alike =>
      (Agree.pure (alike.source (.recordType type) none)).bind keys (agree_start .select)
  cases inputs with
  | nothing => exact (Agree.pure h).bind keys (agree_start .select)
  | record r => exact ofType among
  | recordType type => exact ofType among
  | _ => exact (Agree.pure sourced).bind keys (agree_start .select)

/-- Alike calls keep statements alike, whichever caches they use. -/
theorem Alike.agree_apply {call call' : Call} (calls : call.Alike call') (among : call.In types) :
    Agree types Alike (s.apply call) (t.apply call') := by
  cases calls with
  | insert inputs => exact h.agree_insert keys inputs among
  | insertBulk inputs => exact h.agree_insertBulk keys inputs among
  | delete inputs => exact .pure (h.delete inputs)
  | update inputs => exact h.agree_update keys inputs among
  | select inputs => exact h.agree_select keys inputs among
  | intoTable inputs => exact .pure (h.intoTable inputs)
  | values inputs => exact h.agree_values keys inputs among
  | valuesBulk inputs => exact h.agree_valuesBulk keys inputs among
  | source inputs alias? => exact .pure (h.source inputs alias?)
  | set column operands => exact .pure (h.set column operands)
  | setAll inputs => exact h.agree_setAll keys inputs among
  | condition op queries => exact .pure (h.addCondition op queries)
  | having op queries => exact .pure (h.addHaving op queries)
  -- equal calls: the inputs are alike by reflexivity
  | same =>
    cases call with
    | insert d => exact h.agree_insert keys (.refl d) among
    | insertBulk ds => exact h.agree_insertBulk keys (Data.Alike.refl_all ds) among
    | delete d => exact .pure (h.delete (.refl d))
    | update d => exact h.agree_update keys (.refl d) among
    | select d => exact h.agree_select keys (.refl d) among
    | intoTable d => exact .pure (h.intoTable (.refl d))
    | intoColumns columns => exact .pure (h.intoColumns columns)
    | intoColumnsOf type => exact h.agree_intoColumnsOf keys among
    | values d => exact h.agree_values keys (.refl d) among
    | valuesBulk ds => exact h.agree_valuesBulk keys (Data.Alike.refl_all ds) among
    | source d alias? => exact .pure (h.source (.refl d) alias?)
    | selectColumns columns => exact .pure (h.addSelectColumns columns)
    | selectColumnsOf type => exact h.agree_selectColumnsOf keys among
    | set column o => exact .pure (h.set column (.same o))
    | increase column amount => exact .pure (h.set column (.same _))
    | decrease column amount => exact .pure (h.set column (.same _))
    | setAll d => exact h.agree_setAll keys (.refl d) among
    | condition op q => exact .pure (h.addCondition op (.same q))
    | having op q => exact .pure (h.addHaving op (.same q))
    | groupBy items => exact .pure (h.groupBy items)
    | orderBy items => exact .pure (h.orderBy items "")
    | ascending columns => exact .pure (h.orderBy columns " ASC")
    | descending columns => exact .pure (h.orderBy columns " DESC")
    | limit n => exact .pure (h.setLimit n)
    | limitOffset n offset => exact .pure (h.setLimitOffset n offset)
    | withCache cache => exact .pure (h.withCache cache)
    | reset => exact .pure (.refl {})

/-- Runs of alike calls keep statements alike. -/
theorem Alike.agree_run {calls calls' : List Call} (alike : List.Forall₂ Call.Alike calls calls')
    (among : ∀ call ∈ calls, call.In types) :
    Agree types Alike (s.run calls) (t.run calls') := by
  induction alike generalizing s t with
  | nil => exact .pure h
  | cons first _ ih =>
    rcases List.forall_mem_cons.1 among with ⟨now, later⟩
    rw [run, run, List.foldlM_cons, List.foldlM_cons]
    exact (h.agree_apply keys first now).bind keys fun _ _ applied => ih applied later

end

end Stmt

/-! ## Runs with what happens between their calls -/

/-- A step of a run: a call, or something that happens to a cache meanwhile. -/
inductive BuildStep where
  | call (call : Call)
  | event (e : CacheEvent)

namespace BuildStep

/-- The call that is made, if one is, and if it does more than to choose a cache. -/
def call? : BuildStep → Option Call
  | call (.withCache _) => none
  | call made => some made
  | event _ => none

/-- The record types that are looked up or resolved are among these. -/
def In (types : Set RecordType) : BuildStep → Prop
  | call made => made.In types
  | event e => e.In types

/-- A step that makes a call is that call. -/
theorem eq_call {step : BuildStep} {made : Call} (found : step.call? = some made) :
    step = .call made := by
  cases step with
  | call call =>
    cases call with
    | withCache cache => cases found
    | _ => exact congrArg BuildStep.call (Option.some.inj found)
  | event e => cases found

end BuildStep

namespace Stmt

/-- Take a step. -/
def take (s : Stmt) : BuildStep → Building Stmt
  | .call call => s.apply call
  | .event e => do
    modify (·.next e)
    return s

/-- Take steps in order. -/
def perform (s : Stmt) (steps : List BuildStep) : Building Stmt :=
  steps.foldlM take s

section

variable {types : Set RecordType} {s t : Stmt}

/-- A step that is no call, or only chooses a cache, makes no difference. -/
theorem Alike.agree_silent (h : s.Alike t) {step : BuildStep} (silent : step.call? = none)
    (among : step.In types) : Agree types Alike (s.take step) (pure t) := by
  cases step with
  | event e => exact fun _ _ _ _ => ⟨h, .next among, .refl⟩
  | call call =>
    cases call with
    | withCache cache => exact .pure (h.withCache_left cache)
    | _ => cases silent

/-- A run does to a statement what its bare calls do. -/
theorem Alike.agree_perform (h : s.Alike t) (keys : Set.InjOn RecordType.key types)
    {steps : List BuildStep} (among : ∀ step ∈ steps, step.In types) :
    Agree types Alike (s.perform steps) (t.run (steps.filterMap BuildStep.call?)) := by
  induction steps generalizing s t with
  | nil => exact .pure h
  | cons step rest ih =>
    rcases List.forall_mem_cons.1 among with ⟨now, later⟩
    rw [perform, List.foldlM_cons]
    cases found : step.call? with
    | some call =>
      obtain rfl : step = .call call := BuildStep.eq_call found
      rw [List.filterMap_cons_some found, run, List.foldlM_cons]
      exact (h.agree_apply keys (.same call) now).bind keys fun _ _ alike => ih alike later
    -- the bare calls have none here, and the statement stays alike
    | none =>
      rw [List.filterMap_cons_none found]
      exact (h.agree_silent found now).bind keys fun _ _ alike => ih alike later

/-- Runs of alike calls build statements that are written the same, in whatever sound caches. -/
theorem write_perform (keys : Set.InjOn RecordType.key types) {cs cs' : ColumnCaches}
    (sound : cs.Sound types) (sound' : cs'.Sound types) {steps steps' : List BuildStep}
    (among : ∀ step ∈ steps, step.In types) (among' : ∀ step ∈ steps', step.In types)
    (calls : List.Forall₂ Call.Alike (steps.filterMap BuildStep.call?)
      (steps'.filterMap BuildStep.call?)) :
    (perform {} steps cs).1.write = (perform {} steps' cs').1.write := by
  have amongCalls : ∀ call ∈ steps.filterMap BuildStep.call?, call.In types := by
    intro call member
    rcases List.mem_filterMap.1 member with ⟨step, own, found⟩
    obtain rfl : step = .call call := BuildStep.eq_call found
    exact among _ own
  -- both runs are compared with the runs of their bare calls, in the caches of the first
  have bare := Alike.agree_perform (.refl {}) keys among cs cs sound sound
  have between := (Alike.refl {}).agree_run keys calls amongCalls cs cs sound sound
  have bare' := Alike.agree_perform (.refl {}) keys among' cs' cs sound' sound
  calc (perform {} steps cs).1.write
      = (run {} (steps.filterMap BuildStep.call?) cs).1.write := bare.1.write
    _ = (run {} (steps'.filterMap BuildStep.call?) cs).1.write := between.1.write
    _ = (perform {} steps' cs').1.write := bare'.1.write.symm

end

/-- Where keys are distinct, caches do not show, whatever has happened to them.  They give the
columns of a record type; what one keeps stays until it is cleared, and it keeps one entry for each
record type resolved in it since.  A run of calls adds to what happens to caches.  What it builds is
written as what another run of the same calls builds with whatever caches, so the two may stand in
for each other as sub-statements of further runs. -/
theorem caches_do_not_show {types : Set RecordType} (keys : Set.InjOn RecordType.key types)
    (number : Nat) {history : List CacheEvent} (among : ∀ e ∈ history, e.In types) :
    let caches := (ColumnCaches.fresh number).after history
    (∀ ref, ∀ t ∈ types, (ColumnCaches.resolve ref t caches).1 =
      t.fields.map fun f => (f.tag.filter (· ≠ "")).getD f.ident) ∧
    (∀ ref key columns later, (caches.cacheAt ref).find? key = some columns →
      .clear ref ∉ later → ((caches.after later).cacheAt ref).find? key = some columns) ∧
    (∀ ref, (ColumnCaches.fresh number).Has ref →
      (caches.cacheAt ref).size = (ColumnCaches.resolvedSince ref history).toFinset.card) ∧
    ∀ steps : List BuildStep, (∀ step ∈ steps, step.In types) →
      caches.Reaches types (perform {} steps caches).2 ∧
      ∀ (number' : Nat) (history' : List CacheEvent), (∀ e ∈ history', e.In types) →
        ∀ steps' : List BuildStep, (∀ step ∈ steps', step.In types) →
        List.Forall₂ Call.Alike (steps.filterMap BuildStep.call?)
          (steps'.filterMap BuildStep.call?) →
        let s := (perform {} steps caches).1
        let t := (perform {} steps' ((ColumnCaches.fresh number').after history')).1
        s.write = t.write ∧ ∀ dialect, s.render dialect = t.render dialect := by
  intro caches
  have sound : caches.Sound types := (ColumnCaches.sound_fresh types number).after keys among
  refine ⟨?_, ?_, ?_, ?_⟩
  · intro ref t member
    rw [sound.resolve ref member, RecordType.columns]
    exact List.map_congr_left fun f _ => f.columnName_eq
  · intro ref key columns later kept uncleared
    exact ColumnCaches.find?_after kept uncleared
  · intro ref made
    exact ColumnCaches.size_after made keys among
  · intro steps amongSteps
    have run := Alike.agree_perform (.refl {}) keys amongSteps caches caches sound sound
    refine ⟨run.2.1, ?_⟩
    intro number' history' among' steps' amongSteps' calls s t
    have sound' := (ColumnCaches.sound_fresh types number').after keys among'
    have written : s.write = t.write := write_perform keys sound sound' amongSteps amongSteps' calls
    refine ⟨written, ?_⟩
    intro dialect
    rw [render, render, writeTo, writeTo, written]

/-- A type with a table, a tag and an empty tag. -/
def ticket : RecordType :=
  ⟨"Ticket", some "tickets", [⟨"id", some "number"⟩, ⟨"note", some ""⟩]⟩

/-- A type without a table. -/
def owner : RecordType :=
  ⟨"Owner", none, [⟨"name", none⟩]⟩

/-- Both types are resolved, one of them twice, in two caches, one of which is cleared. -/
def resolutions : List CacheEvent :=
  [.resolve .shared owner, .clear .shared, .resolve (.own 0) ticket, .resolve .shared ticket,
    .resolve (.own 0) owner, .resolve (.own 0) ticket]

/-- Select all columns of a type, in a cache of its own. -/
def innerSteps : List BuildStep :=
  [.call (.withCache (.own 0)), .call (.select (.recordType ticket))]

/-- The same call in the shared cache. -/
def innerSteps' : List BuildStep :=
  [.call (.select (.recordType ticket))]

/-- Select from a sub-statement, in a cache that is cleared meanwhile. -/
def outerSteps (inner : Stmt) : List BuildStep :=
  [.call (.withCache (.own 0)), .event (.clear (.own 0)), .call (.selectColumnsOf owner),
    .call (.select (.stmt inner))]

/-- The same calls in the shared cache. -/
def outerSteps' (inner : Stmt) : List BuildStep :=
  [.call (.selectColumnsOf owner), .event (.resolve .shared owner), .call (.select (.stmt inner))]

/-- Runs in caches with a past build what runs in fresh ones do, one statement inside the other. -/
theorem ticketCaches_do_not_show :
    let types : Set RecordType := {ticket, owner}
    let caches := (ColumnCaches.fresh 1).after resolutions
    let inner := (perform {} innerSteps caches).1
    let inner' := (perform {} innerSteps' (.fresh 0)).1
    Set.InjOn RecordType.key types ∧ (∀ e ∈ resolutions, e.In types) ∧
    (ColumnCaches.resolve (.own 0) ticket caches).1 = ["number", "note"] ∧
    (caches.cacheAt (.own 0)).size = 2 ∧ (caches.cacheAt .shared).size = 1 ∧
    inner.write = inner'.write ∧
    (perform {} (outerSteps inner) caches).1.write =
      (perform {} (outerSteps' inner') (.fresh 0)).1.write ∧
    (perform {} (outerSteps inner) caches).1.writeTo {} = (.ok (),
      ⟨"SELECT name FROM (SELECT number,note FROM tickets)", [], []⟩) := by
  intro types caches inner inner'
  have keys : Set.InjOn RecordType.key types := by
    intro t ht u hu same
    rcases ht with rfl | rfl
    · rcases hu with rfl | rfl
      · rfl
      · exact absurd same (by decide)
    · rcases hu with rfl | rfl
      · exact absurd same (by decide)
      · rfl
  have isTicket : ticket ∈ types := .inl rfl
  have isOwner : owner ∈ types := .inr rfl
  have among : ∀ e ∈ resolutions, e.In types := by
    simp only [resolutions, List.forall_mem_cons]
    exact ⟨isOwner, trivial, isTicket, isTicket, isOwner, isTicket, List.forall_mem_nil _⟩
  rcases caches_do_not_show keys 1 among with ⟨columns, _, sizes, runs⟩
  have amongInner : ∀ step ∈ innerSteps, step.In types :=
    List.forall_mem_cons.2 ⟨trivial, List.forall_mem_singleton.2 isTicket⟩
  have amongInner' : ∀ step ∈ innerSteps', step.In types := List.forall_mem_singleton.2 isTicket
  have written : inner.write = inner'.write :=
    ((runs innerSteps amongInner).2 0 [] (List.forall_mem_nil _) innerSteps' amongInner'
      (.cons (.same _) .nil)).1
  have amongOuter : ∀ step ∈ outerSteps inner, step.In types := by
    simp only [outerSteps, List.forall_mem_cons]
    exact ⟨trivial, trivial, isOwner, trivial, List.forall_mem_nil _⟩
  have amongOuter' : ∀ step ∈ outerSteps' inner', step.In types := by
    simp only [outerSteps', List.forall_mem_cons]
    exact ⟨isOwner, isOwner, trivial, List.forall_mem_nil _⟩
  -- the sub-statements come from different caches, and are written the same
  have outer := (runs (outerSteps inner) amongOuter).2 0 [] (List.forall_mem_nil _)
    (outerSteps' inner') amongOuter' (.cons (.same _) (.cons (.select (.stmt written)) .nil))
  have made : (ColumnCaches.fresh 1).Has (.own 0) := Nat.zero_lt_one
  exact ⟨keys, among, columns (.own 0) ticket isTicket, sizes (.own 0) made, sizes .shared trivial,
    written, outer.1, rfl⟩

end Stmt

end SqlCompose
