import SqlCompose.Proofs.Pool.Sessions

/-! # References that no pool knows of

A pooled object may be a node to which more references are made, of which its pool does not know.
While there are any, nobody changes the node.  But when the pooled handle is dropped, the node is
parked, and as it cannot be recycled then, it is parked as it is.

Handles are dropped one after the other.  A node may be parked with another reference to it that is
gone before the action is over, so a run is followed from moment to moment (`Moment`).  A store
stays tidy from one moment to the next, unless a task `Strands` its object (`Pending.perform`), and
every action leaves it so (`pending_act`).

Main statement: `staysClean_iff`, which runs of actions on pools of nodes park only what is as good
as new and referred to by nobody else.
-/

namespace SqlCompose.Pool

variable {s s' : Store} {outside : List Handle} {t : Task} {tasks : List Task}

/-! ## Tasks -/

/-- Whether a pool keeps one more object. -/
def Store.HasRoom (s : Store) (p : Nat) : Prop :=
  (s.pool p).idle.length < (s.pool p).maxIdle

instance (s : Store) (p : Nat) : Decidable (s.HasRoom p) :=
  inferInstanceAs (Decidable (_ < _))

/-- A pooled handle is dropped on an object with other references, for which its pool has room. -/
def Strands (s : Store) : Task → Prop
  | .drop (.pooled p i) => s.HasRoom p ∧ (s.object i).references ≠ 1
  | _ => False

/-- A task touches the object of its handle only, also where others refer to that. -/
theorem Store.object_perform (lt : t.handle.object < s.objects.length) {k : Nat}
    (other : k ≠ t.handle.object) : (s.perform t).2.object k = s.object k := by
  -- a handle with others beside it is let go of or parked, which touches no other object
  rcases s.perform_cases t with does | ⟨p, i, rfl, _, eq⟩ | ⟨i, rfl, _, eq⟩
  · exact does.object_eq lt other
  · rw [eq]
  · rw [eq]
    exact (object_forget lt).trans (if_neg other)

/-- Another pool in place of one leaves the others. -/
theorem Store.pool_setPool {p q : Nat} {f : FreeList} (lt : p < s.pools.length) :
    (s.setPool p f).pool q = if q = p then f else s.pool q := by
  simp only [pool, setPool, List.getElem?_set]
  split
  · next same =>
    rw [if_pos same.symm]
    rfl
  · next other => rw [if_neg (Ne.symm other)]

/-- Parking takes room, and nothing else concerns it. -/
theorem Does.hasRoom (does : Does s t tasks s') {q : Nat} (room : s'.HasRoom q) : s.HasRoom q := by
  cases does with
  | @park p i had =>
    have lt := Store.lt_of_room had
    -- the pool that has parked one more had room before
    rw [Store.HasRoom, Store.pool_setPool lt] at room
    split at room
    · next same =>
      rw [same]
      exact had
    · exact room
  | recycle last one => exact room
  | forget many => exact room
  | destroy one => exact room
  | full noRoom => exact room

/-- No task makes room. -/
theorem Store.hasRoom_of_perform {q : Nat} (room : (s.perform t).2.HasRoom q) : s.HasRoom q := by
  rcases s.perform_cases t with does | ⟨p, i, rfl, _, eq⟩ | ⟨i, rfl, _, eq⟩
  · exact does.hasRoom room
  · rw [eq] at room
    exact room
  · rw [eq] at room
    exact room

/-- A handle outside gives way to another one on its object. -/
theorem Tidy.replace {h h' : Handle} (tidy : Tidy s (h :: outside)) (on : h'.object = h.object) :
    Tidy s (h' :: outside) := by
  apply tidy.exchange
  intro k
  rw [count_cons_object, count_cons_object, on]

/-- A task that does what is meant for it keeps the references counted, and parks what is as good as
new. -/
theorem Does.tidy (does : Does s t tasks s') (tidy : Tidy s (t.handle :: outside))
    (ready : ∀ p i, t = .park p i → s.HasRoom p → s.object i = .asNew) :
    Tidy s' (tasks.map Task.handle ++ outside) := by
  cases does with
  | @recycle h p i last one =>
    have next := tidy.recycle (p := p) (object_of_last last)
    rw [Store.recycle, List.map_append, handle_drops, List.append_assoc]
    exact next
  | forget many => exact tidy.forget rfl
  | @destroy i one =>
    have next : Tidy (s.destroy i).2 ((s.object i).nested ++ outside) := tidy.destroy rfl one
    rw [Store.destroy, handle_drops]
    exact next
  | @park p i room => exact tidy.park rfl (ready p i rfl room) room
  | full noRoom => exact tidy.replace rfl

/-- A task leaves a tidy store, if what it parks is as good as new. -/
theorem Tidy.perform (tidy : Tidy s (t.handle :: outside))
    (ready : ∀ p i, t = .park p i → s.HasRoom p → s.object i = .asNew) :
    Tidy (s.perform t).2 ((s.perform t).1.map Task.handle ++ outside) := by
  -- as meant, or a pooled handle waits to be parked, or a plain one is let go of
  rcases s.perform_cases t with does | ⟨p, i, rfl, _, eq⟩ | ⟨i, rfl, _, eq⟩
  · exact does.tidy tidy ready
  · rw [eq]
    exact tidy.replace rfl
  · rw [eq]
    exact tidy.forget rfl

/-- Tasks that may be performed on a tidy store, with the handles outside that are left then. -/
structure Pending (s : Store) (tasks : List Task) (outside : List Handle) : Prop where
  tidy : Tidy s (tasks.map Task.handle ++ outside)
  /-- What is to be parked is as good as new. -/
  ready : ∀ p i, .park p i ∈ tasks → s.HasRoom p → s.object i = .asNew

/-- As long as no object is stranded, tasks may be performed. -/
theorem Pending.perform {rest : List Task} (pending : Pending s (t :: rest) outside)
    (kept : ¬Strands s t) : Pending (s.perform t).2 ((s.perform t).1 ++ rest) outside := by
  have tidy : Tidy s (t.handle :: (rest.map Task.handle ++ outside)) := pending.tidy
  have lt := tidy.lt_length (List.mem_append_left _ List.mem_cons_self)
  constructor
  · rw [List.map_append, List.append_assoc]
    apply tidy.perform
    rintro p i rfl room
    exact pending.ready p i List.mem_cons_self room
  · intro p i mem room
    rcases List.mem_append.1 mem with new | waits
    · rcases s.perform_cases t with does | ⟨q, j, rfl, many, eq⟩ | ⟨j, rfl, _, eq⟩
      · exact does.ready lt _ new
      · -- what is to be parked as it is has no room, or it would be stranded
        rw [eq] at new room
        cases List.mem_singleton.1 new
        exact absurd ⟨room, many⟩ kept
      · rw [eq] at new
        cases new
    · have asNew := pending.ready p i (List.mem_cons_of_mem _ waits) (Store.hasRoom_of_perform room)
      rw [Store.object_perform lt (tidy.waiting_ne waits asNew), asNew]

/-- Handles outside may be dropped at any time. -/
theorem Tidy.pending {handles : List Handle} (tidy : Tidy s (handles ++ outside)) :
    Pending s (handles.map .drop) outside := by
  constructor
  · rwa [handle_drops]
  · intro p i mem
    rcases List.mem_map.1 mem with ⟨h, _, eq⟩
    cases eq

/-- Where no tasks are left, a tidy store is all that is asked for. -/
theorem Tidy.settled (tidy : Tidy s outside) : Pending s [] outside :=
  @Tidy.pending s outside [] tidy

/-! ### Stranded objects -/

/-- Not being the only reference, a pooled handle is dropped without a recycling. -/
theorem Store.perform_pooled_of_many {p i : Nat} (many : (s.object i).references ≠ 1) :
    s.perform (.drop (.pooled p i)) = ([.park p i], s) :=
  if_neg many

/-- Where there is room, parking looks at nothing else. -/
theorem Store.perform_park {p i : Nat} (room : s.HasRoom p) :
    s.perform (.park p i)
      = ([], s.setPool p { s.pool p with idle := (s.pool p).idle ++ [i] }) :=
  if_pos room

theorem Store.performAll_last (eq : s.perform t = ([], s')) : s.performAll [t] = s' := by
  rw [performAll, eq, List.nil_append, performAll]

/-- A pooled handle is dropped on an object with other references: the object is parked as it is. -/
theorem Store.drop_pooled_of_many {p i : Nat} (many : (s.object i).references ≠ 1)
    (room : s.HasRoom p) : s.drop (.pooled p i)
      = s.setPool p { s.pool p with idle := (s.pool p).idle ++ [i] } := by
  rw [drop, performAll, perform_pooled_of_many many, List.append_nil]
  exact performAll_last (perform_park room)

theorem Store.drop_plain_of_many {i : Nat} (many : (s.object i).references ≠ 1) :
    s.drop (.plain i) = s.forget i :=
  performAll_last (if_neg many)

/-! ## Sessions with nodes -/

/-- What holders of handles on nodes do: what is done in any session, and one more reference is made
to a node. -/
inductive NodeAction where
  | lend (a : Action)
  | copy (h : Handle)

/-- The handle by which an action reaches into an object. -/
def Action.inside : Action → Option Handle
  | .change h _ => some h
  | .nest h _ => some h
  | .move h _ _ => some h
  | _ => none

namespace Session

/-- Whether nothing else refers to the node that an action reaches into. -/
def Alone (s : Session) (a : Action) : Prop :=
  ∀ h ∈ a.inside, (s.store.object h.object).references = 1

instance (s : Session) (a : Action) : Decidable (s.Alone a) :=
  inferInstanceAs (Decidable (∀ h ∈ a.inside, _))

/-- An action on nodes.  One that cannot be done leaves everything as it was. -/
def nodeStep (s : Session) : NodeAction → Session
  | .lend a => if s.Alone a then s.step a else s
  | .copy h =>
    if h ∈ s.held ++ s.store.nestedHandles ∧ h.isShared = false then
      let (h', store) := copy h s.store
      { s with store := store, held := h' :: s.held }
    else s

/-- All actions in turn, on pools that are empty at first. -/
def nodeRun (limits : List Nat) (actions : List NodeAction) : Session :=
  actions.foldl nodeStep { store := .withLimits limits }

/-- Perform tasks, and all that they lead to. -/
def performAll (s : Session) (tasks : List Task) : Session :=
  { s with store := s.store.performAll tasks }

/-- An action up to the first handle that it drops, with the tasks that are left.  What is let go of
to share another object has more references, so that nothing follows from it. -/
def act (s : Session) : NodeAction → Session × List Task
  | .lend (.drop h) =>
    if h ∈ s.held then ({ s with held := s.held.erase h }, [.drop h]) else (s, [])
  | .lend (.setMaxIdle p limit) =>
    let f := s.store.pool p
    ({ s with store := s.store.setPool p ⟨f.idle.take limit, limit⟩ },
      (f.idle.drop limit).map fun i => .drop (.plain i))
  | a => (s.nodeStep a, [])

/-- The moments of a run: the actions that have begun, what there is then, and the tasks that are
left to the last of them. -/
inductive Moment (limits : List Nat) : List NodeAction → Session → List Task → Prop where
  | start : Moment limits [] { store := .withLimits limits } []
  | act {done : List NodeAction} {s : Session} (between : Moment limits done s [])
      (a : NodeAction) : Moment limits (done ++ [a]) (s.act a).1 (s.act a).2
  | perform {done : List NodeAction} {s : Session} {t : Task} {rest : List Task}
      (within : Moment limits done s (t :: rest)) :
      Moment limits done { s with store := (s.store.perform t).2 } ((s.store.perform t).1 ++ rest)

/-- What holders of handles on nodes can rely on, all through a run. -/
structure StaysClean (limits : List Nat) (actions : List NodeAction) : Prop where
  /-- At every moment, what is parked is as good as new, and only its pool refers to it. -/
  parked : ∀ done s tasks, done <+: actions → Moment limits done s tasks → ∀ i ∈ s.store.parked,
    s.store.object i = .asNew ∧ s.store.holders (tasks.map Task.handle ++ s.outside) i = 1
  /-- Between any two actions, what is filled next is as good as new, -/
  opened : ∀ done, done <+: actions → ∀ p,
    (openNode p (nodeRun limits done).store).2.object (openNode p (nodeRun limits done).store).1
      = .asNew
  /-- and what is shared next has what its fill makes of nothing. -/
  shared : ∀ done, done <+: actions → ∀ p fill,
    (share p fill (nodeRun limits done).store).1.2 = [] ∧
    (share p fill (nodeRun limits done).store).2.object
      (share p fill (nodeRun limits done).store).1.1.object = { data := fill [], references := 1 }

variable {s : Session} {limits : List Nat} {actions done : List NodeAction}

/-! ### Every action leaves a tidy store -/

/-- A node is borrowed from a tidy store. -/
theorem tidy_acquire (tidy : Tidy s.store s.outside) (p : Nat) :
    Tidy (s.step (.acquire p)).store (s.step (.acquire p)).outside :=
  tidy.take p rfl

/-- Data is changed through the only reference to a node. -/
theorem tidy_change (tidy : Tidy s.store s.outside) {h : Handle}
    (one : (s.store.object h.object).references = 1) (f : List Int → List Int) :
    Tidy (s.step (.change h f)).store (s.step (.change h f)).outside := by
  by_cases owns : s.Owns h
  · rw [step, if_pos owns, change_eq owns.2, Store.update_eq one]
    exact tidy.rearrange owns.1 one one (List.Perm.refl _)
  · rw [step, if_neg owns]
    exact tidy

/-- A handle that is held moves into a node. -/
theorem tidy_nest (tidy : Tidy s.store s.outside) {h : Handle}
    (one : (s.store.object h.object).references = 1) (child : Handle) :
    Tidy (s.step (.nest h child)).store (s.step (.nest h child)).outside := by
  -- what cannot be done changes nothing
  by_cases can : s.Owns h ∧ child ∈ s.held ∧ child ≠ h
  · rw [step, if_pos can]
    exact tidy.rearrange can.1.1 one one (nest_perm can.2.1 _)
  · rw [step, if_neg can]
    exact tidy

/-- Handles move between a node and the holder, in any order. -/
theorem tidy_move (tidy : Tidy s.store s.outside) {h : Handle}
    (one : (s.store.object h.object).references = 1) (nested held : List Handle) :
    Tidy (s.step (.move h nested held)).store (s.step (.move h nested held)).outside := by
  by_cases can : s.Owns h ∧ h ∉ nested ∧
      (nested ++ held).Perm ((s.store.object h.object).nested ++ s.held)
  · rw [step, if_pos can]
    exact tidy.rearrange can.1.1 one one (move_perm can.2.2)
  · rw [step, if_neg can]
    exact tidy

/-- A node leaves the care of its pool, with the same reference to it. -/
theorem tidy_detach (tidy : Tidy s.store s.outside) (p i : Nat) :
    Tidy (s.step (.detach p i)).store (s.step (.detach p i)).outside := by
  by_cases held : .pooled p i ∈ s.held
  · rw [step, if_pos held]
    exact (tidy.perm (outside_perm held)).replace rfl
  · rw [step, if_neg held]
    exact tidy

/-- Whoever fills a node refers to it. -/
theorem tidy_beginShare (tidy : Tidy s.store s.outside) (p : Nat) :
    Tidy (s.step (.beginShare p)).store (s.step (.beginShare p)).outside := by
  have opened := tidy.openNode p (h := .plain (openNode p s.store).1) rfl
  exact opened.perm List.perm_middle.symm

/-- The handle of who filled a node becomes a shared one. -/
theorem tidy_endShare (tidy : Tidy s.store s.outside) (p i : Nat) :
    Tidy (s.step (.endShare p i)).store (s.step (.endShare p i)).outside := by
  by_cases filling : (p, i) ∈ s.filling
  · rw [step, if_pos filling]
    exact (tidy.perm (filler_perm filling)).replace rfl
  · rw [step, if_neg filling]
    exact tidy

/-- A node is shared in three steps, each of which leaves a tidy store. -/
theorem tidy_share (tidy : Tidy s.store s.outside) (p : Nat) (fill : List Int → List Int) :
    Tidy (s.step (.share p fill)).store (s.step (.share p fill)).outside := by
  have one : ((openNode p s.store).2.object (openNode p s.store).1).references = 1 := by
    rw [tidy.openNode_asNew, Object.references_asNew]
  have filled := tidy_change (tidy_beginShare tidy p) (h := .plain (openNode p s.store).1) one fill
  rw [step_share]
  exact tidy_endShare filled _ _

/-- A shared handle has one more beside it. -/
theorem tidy_clone (tidy : Tidy s.store s.outside) (h : Handle) :
    Tidy (s.step (.clone h)).store (s.step (.clone h)).outside := by
  by_cases can : h ∈ s.live ∧ h.isShared
  · rw [step, if_pos can]
    exact tidy.retain can.1 rfl
  · rw [step, if_neg can]
    exact tidy

/-- A reference of which no pool knows is counted, too. -/
theorem tidy_copy (tidy : Tidy s.store s.outside) (h : Handle) :
    Tidy (s.nodeStep (.copy h)).store (s.nodeStep (.copy h)).outside := by
  by_cases can : h ∈ s.held ++ s.store.nestedHandles ∧ h.isShared = false
  · rw [nodeStep, if_pos can]
    have live : h ∈ s.outside ++ s.store.nestedHandles := by
      rcases List.mem_append.1 can.1 with held | nested
      · exact List.mem_append_left _ (List.mem_append_left _ held)
      · exact List.mem_append_right _ nested
    exact tidy.retain live rfl
  · rw [nodeStep, if_neg can]
    exact tidy

/-- What is not alone is not reached into. -/
theorem tidy_lend (tidy : Tidy s.store s.outside) {a : Action}
    (step : s.Alone a → Tidy (s.step a).store (s.step a).outside) :
    Tidy (s.nodeStep (.lend a)).store (s.nodeStep (.lend a)).outside := by
  by_cases alone : s.Alone a
  · rw [nodeStep, if_pos alone]
    exact step alone
  · rw [nodeStep, if_neg alone]
    exact tidy

/-- To drop a handle is a task. -/
theorem pending_drop (tidy : Tidy s.store s.outside) (h : Handle) :
    Pending (s.act (.lend (.drop h))).1.store (s.act (.lend (.drop h))).2
      (s.act (.lend (.drop h))).1.outside := by
  by_cases held : h ∈ s.held
  · rw [act, if_pos held]
    exact @Tidy.pending _ _ [h] (tidy.perm (outside_perm held))
  · rw [act, if_neg held]
    exact tidy.settled

/-- To drop what is parked beyond a new limit are as many tasks. -/
theorem pending_setMaxIdle (tidy : Tidy s.store s.outside) (p limit : Nat) :
    Pending (s.act (.lend (.setMaxIdle p limit))).1.store (s.act (.lend (.setMaxIdle p limit))).2
      (s.act (.lend (.setMaxIdle p limit))).1.outside := by
  simp only [act, drop_surplus]
  exact (tidy.limit p limit).pending

/-- The tasks that an action leaves may be performed. -/
theorem pending_act (tidy : Tidy s.store s.outside) (a : NodeAction) :
    Pending (s.act a).1.store (s.act a).2 (s.act a).1.outside := by
  cases a with
  | copy h => exact (tidy_copy tidy h).settled
  | lend a =>
    cases a with
    | drop h => exact pending_drop tidy h
    | setMaxIdle p limit => exact pending_setMaxIdle tidy p limit
    | acquire p => exact (tidy_lend tidy fun _ => tidy_acquire tidy p).settled
    | change h f =>
      exact (tidy_lend tidy fun alone => tidy_change tidy (alone h rfl) f).settled
    | nest h child =>
      exact (tidy_lend tidy fun alone => tidy_nest tidy (alone h rfl) child).settled
    | move h nested held =>
      exact (tidy_lend tidy fun alone => tidy_move tidy (alone h rfl) nested held).settled
    | detach p i => exact (tidy_lend tidy fun _ => tidy_detach tidy p i).settled
    | share p fill => exact (tidy_lend tidy fun _ => tidy_share tidy p fill).settled
    | beginShare p => exact (tidy_lend tidy fun _ => tidy_beginShare tidy p).settled
    | endShare p i => exact (tidy_lend tidy fun _ => tidy_endShare tidy p i).settled
    | clone h => exact (tidy_lend tidy fun _ => tidy_clone tidy h).settled

/-! ### Moments -/

/-- An action is what it does at once, and then its tasks. -/
theorem nodeStep_eq (s : Session) (a : NodeAction) :
    s.nodeStep a = (s.act a).1.performAll (s.act a).2 := by
  have settled (s : Session) : s.performAll [] = s := by
    rw [performAll, Store.performAll]
  cases a with
  | copy h => exact (settled _).symm
  | lend a =>
    -- an action that reaches into no node is never held back
    have alone (none : a.inside = none) : s.nodeStep (.lend a) = s.step a := by
      rw [nodeStep, if_pos]
      intro h mem
      rw [none] at mem
      cases mem
    cases a with
    | drop h =>
      rw [alone rfl, step, act]
      split
      · rfl
      · exact (settled _).symm
    | setMaxIdle p limit =>
      rw [alone rfl, step, act]
      rfl
    -- no other action leaves a task
    | _ => exact (settled _).symm

/-- From every moment the tasks that are left lead to one without tasks. -/
theorem Moment.performAll {s : Session} {tasks : List Task} (moment : Moment limits done s tasks) :
    Moment limits done (s.performAll tasks) [] := by
  rcases s with ⟨store, held, filling, written, filled⟩
  rw [Session.performAll]
  induction store, tasks using Store.performAll.induct with
  | case1 store =>
    rw [Store.performAll]
    exact moment
  | case2 store t rest ih =>
    rw [Store.performAll]
    exact ih moment.perform

/-- A run goes from moment to moment. -/
theorem moment_run (limits : List Nat) (done : List NodeAction) :
    Moment limits done (nodeRun limits done) [] := by
  have steps : ∀ s before, Moment limits before s [] →
      Moment limits (before ++ done) (done.foldl nodeStep s) [] := by
    induction done with
    | nil =>
      intro s before moment
      rw [List.append_nil]
      exact moment
    | cons a rest ih =>
      intro s before moment
      have next := (moment.act a).performAll
      rw [← nodeStep_eq] at next
      have last := ih _ _ next
      rwa [List.append_assoc] at last
  exact steps _ [] .start

/-- A store is tidy all through a run that strands nothing. -/
theorem Moment.pending {tasks : List Task}
    (kept : ∀ done s t rest, done <+: actions → Moment limits done s (t :: rest) →
      ¬Strands s.store t)
    (moment : Moment limits done s tasks) (part : done <+: actions) :
    Pending s.store tasks s.outside := by
  -- what comes before an action is a beginning of what comes after it, so that `kept` serves both
  induction moment with
  | start => exact (kept_start limits).sound.tidy.settled
  | act between a ih =>
    have before := ih ((List.prefix_append _ _).trans part)
    exact pending_act before.tidy a
  | perform within ih => exact (ih part).perform (kept _ _ _ _ part within)

/-- What is stranded is parked at once, although others refer to it. -/
theorem Moment.strand {p i : Nat} {rest : List Task}
    (moment : Moment limits done s (.drop (.pooled p i) :: rest))
    (many : (s.store.object i).references ≠ 1) (room : s.store.HasRoom p) :
    ∃ s' : Session, Moment limits done s' rest ∧ i ∈ s'.store.parked ∧
      (s'.store.object i).references ≠ 1 := by
  have parks := moment.perform
  rw [Store.perform_pooled_of_many many] at parks
  -- the park follows at once, with nothing in between that could recycle the node
  have after := parks.perform
  rw [Store.perform_park room] at after
  refine ⟨_, after, ?_, many⟩
  have last : i ∈ (s.store.pool p).idle ++ [i] :=
    List.mem_append_right _ (List.mem_singleton_self i)
  exact List.mem_flatMap.2 ⟨_, List.mem_set (Store.lt_of_room room) _, last⟩

/-- A run over pools of nodes parks only what is as good as new and referred to by nobody else, and
shares only what it has found as good as new, exactly if no pooled handle is dropped on a node to
which others refer while its pool has room. -/
theorem staysClean_iff (limits : List Nat) (actions : List NodeAction) :
    StaysClean limits actions ↔ ∀ done s t rest, done <+: actions →
      Moment limits done s (t :: rest) → ¬Strands s.store t := by
  constructor
  · intro clean done s t rest part moment strands
    match t, strands with
    | .drop (.pooled p i), ⟨room, many⟩ =>
      rcases moment.strand many room with ⟨s', after, parked, many'⟩
      -- what is parked would have a single reference
      have asNew := (clean.parked done s' rest part after i parked).1
      rw [asNew] at many'
      exact many' rfl
  · intro kept
    -- between actions no task is left, so that the store is tidy
    have tidy (done : List NodeAction) (part : done <+: actions) :
        Tidy (nodeRun limits done).store (nodeRun limits done).outside :=
      ((moment_run limits done).pending kept part).tidy
    constructor
    · intro done s tasks part moment i mem
      have pending := moment.pending kept part
      refine ⟨pending.tidy.idle i mem, ?_⟩
      rw [← pending.tidy.counted, pending.tidy.references_of_parked mem]
    · intro done part p
      exact (tidy done part).openNode_asNew p
    · intro done part p fill
      exact (tidy done part).shares p fill

/-- A node is filled, another reference to it is made, and the two are dropped, that of the pool
first. -/
def leftover : List NodeAction :=
  [.lend (.acquire 0), .lend (.change (.pooled 0 0) fun _ => [7]), .copy (.pooled 0 0),
    .lend (.drop (.pooled 0 0)), .lend (.drop (.plain 0))]

theorem leftover_store : (nodeRun [1] leftover).store = {
    objects := [{ data := [7], references := 1 }]
    pools := [{ idle := [0], maxIdle := 1 }]
    log := [.created 0] } := by
  let copied : Store := {
    objects := [{ data := [7], references := 2 }]
    pools := [{ maxIdle := 1 }]
    log := [.created 0] }
  -- the node is parked at the first drop, and is not touched at the second
  have parked : copied.drop (.pooled 0 0) = copied.setPool 0 { idle := [0], maxIdle := 1 } :=
    copied.drop_pooled_of_many (by decide) (by decide)
  have left : (copied.setPool 0 { idle := [0], maxIdle := 1 }).drop (.plain 0) = _ :=
    Store.drop_plain_of_many (by decide)
  calc (nodeRun [1] leftover).store = (copied.drop (.pooled 0 0)).drop (.plain 0) := rfl
    _ = _ := by
      rw [parked, left]
      rfl

/-- What is shared after that is still filled. -/
theorem leftover_not_clean : ¬StaysClean [1] leftover := by
  intro clean
  have found := (clean.shared leftover (List.prefix_refl _) 0 fun data => data).1
  rw [leftover_store] at found
  revert found
  decide

end Session

end SqlCompose.Pool
