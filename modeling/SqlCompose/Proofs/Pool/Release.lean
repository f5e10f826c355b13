import SqlCompose.Proofs.Pool.References

/-! # Dropping handles

A task refers to the object of one handle, which it uses up.  `Does` says once what it can do with
it: the object is recycled, destroyed or let go of, it is parked, or it is handed to another task.
From this follow, by induction over the tasks as they are performed:

* `Due.performAll`: a sound store stays sound,
* `Due.keeps`: what is seen through the handles that are left stays what it was.
-/

namespace SqlCompose.Pool

/-! ## Tasks -/

/-- The handle that a task uses up.  What is to be parked is referred to by its task, as by a shared
handle that has no others beside it. -/
def Task.handle : Task → Handle
  | drop h => h
  | park p i => .shared p i

/-- Only what is as good as new is parked. -/
def Task.Ready (s : Store) : Task → Prop
  | drop _ => True
  | park _ i => s.object i = .asNew

/-- What a task does: it recycles, destroys or lets go of an object, it parks one, or it hands one
that has no room over to another task. -/
inductive Does (s : Store) : Task → List Task → Store → Prop
  | recycle {h : Handle} {p i : Nat} (last : h = .pooled p i ∨ h = .shared p i)
      (one : (s.object i).references = 1) : Does s (.drop h) (s.recycle p i).1 (s.recycle p i).2
  | forget {p i : Nat} (many : (s.object i).references ≠ 1) :
      Does s (.drop (.shared p i)) [] (s.forget i)
  | destroy {i : Nat} (one : (s.object i).references = 1) :
      Does s (.drop (.plain i)) (s.destroy i).1 (s.destroy i).2
  | park {p i : Nat} (room : (s.pool p).idle.length < (s.pool p).maxIdle) :
      Does s (.park p i) []
        (s.setPool p { s.pool p with idle := (s.pool p).idle ++ [i] })
  | full {p i : Nat} (noRoom : ¬(s.pool p).idle.length < (s.pool p).maxIdle) :
      Does s (.park p i) [.drop (.plain i)] s

section

variable {s s' : Store} {outside : List Handle} {t : Task} {tasks : List Task}

/-- A recycled object is empty and keeps its references; the others stay as they are. -/
theorem Store.object_recycle {p i k : Nat} (lt : i < s.objects.length) :
    (s.recycle p i).2.object k
      = if k = i then { references := (s.object i).references } else s.object k :=
  @Store.object_setObject (s.note (.recycled i)) i k _ lt

/-- A destroyed object is empty and has no references; the others stay as they are. -/
theorem Store.object_destroy {i k : Nat} (lt : i < s.objects.length) :
    (s.destroy i).2.object k = if k = i then {} else s.object k :=
  @Store.object_setObject (s.note (.destroyed i)) i k _ lt

/-- An object that is let go of has one reference less; the others stay as they are. -/
theorem Store.object_forget {i k : Nat} (lt : i < s.objects.length) :
    (s.forget i).object k
      = if k = i then { s.object i with references := (s.object i).references - 1 }
        else s.object k :=
  Store.object_setObject lt

/-- Whatever a task is, it `Does` something, unless a handle that is not shared is dropped on an
object with other references: then a pooled one leaves the object to be parked as it is, and a plain
one lets go of it. -/
theorem Store.perform_cases (s : Store) (t : Task) :
    Does s t (s.perform t).1 (s.perform t).2 ∨
    (∃ p i, t = .drop (.pooled p i) ∧ (s.object i).references ≠ 1 ∧
      s.perform t = ([.park p i], s)) ∨
    (∃ i, t = .drop (.plain i) ∧ (s.object i).references ≠ 1 ∧ s.perform t = ([], s.forget i)) := by
  match t with
  | .drop (.pooled p i) =>
    by_cases one : (s.object i).references = 1
    · rw [perform, if_pos one]
      exact .inl (.recycle (.inl rfl) one)
    · exact .inr (.inl ⟨p, i, rfl, one, if_neg one⟩)
  | .drop (.shared p i) =>
    rw [perform]
    split
    · next one => exact .inl (.recycle (.inr rfl) one)
    · next many => exact .inl (.forget many)
  | .drop (.plain i) =>
    by_cases one : (s.object i).references = 1
    · rw [perform, if_pos one]
      exact .inl (.destroy one)
    · exact .inr (.inr ⟨i, rfl, one, if_neg one⟩)
  | .park p i =>
    simp only [perform]
    split
    · next room => exact .inl (.park room)
    · next noRoom => exact .inl (.full noRoom)

/-- Handles that are not shared are the only references to their objects, so that every task does
what is meant for it. -/
theorem Sound.does (sound : Sound s (t.handle :: outside)) :
    Does s t (s.perform t).1 (s.perform t).2 := by
  have exclusive : t.handle.isShared = false → (s.object t.handle.object).references = 1 :=
    sound.exclusive t.handle (List.mem_append_left _ List.mem_cons_self)
  -- the two other cases need a second reference to the object of an exclusive handle
  rcases s.perform_cases t with does | ⟨p, i, rfl, many, _⟩ | ⟨i, rfl, many, _⟩
  · exact does
  · exact absurd (exclusive rfl) many
  · exact absurd (exclusive rfl) many

theorem object_of_last {h : Handle} {p i : Nat} (last : h = .pooled p i ∨ h = .shared p i) :
    h.object = i := by
  rcases last with rfl | rfl
  · rfl
  · rfl

/-- A task touches the object of its handle only. -/
theorem Does.object_eq (does : Does s t tasks s') (lt : t.handle.object < s.objects.length)
    {k : Nat} (other : k ≠ t.handle.object) : s'.object k = s.object k := by
  -- recycling, letting go and destroying change one object, and parking changes a pool only
  cases does with
  | recycle last one =>
    have on := object_of_last last
    rw [Task.handle, on] at lt other
    rw [Store.object_recycle lt, if_neg other]
  | forget many => exact (Store.object_forget lt).trans (if_neg other)
  | destroy one => exact (Store.object_destroy lt).trans (if_neg other)
  | park room => rfl
  | full noRoom => rfl

/-! ### What a task uses up and what it leaves to do are in balance -/

/-- The references of a recycled object stay counted: its last handle is now that of the task that
parks it, and those that it held are outside. -/
theorem Tidy.recycle {h : Handle} {p i : Nat} (tidy : Tidy s (h :: outside)) (on : h.object = i) :
    Tidy (s.recycle p i).2 ((s.object i).nested ++ .shared p i :: outside) := by
  have mem : h ∈ h :: outside ++ s.nestedHandles := List.mem_append_left _ List.mem_cons_self
  have lt := tidy.lt_length mem
  -- the handle keeps the object from being parked already
  have busy := tidy.not_parked mem
  rw [on] at lt busy
  refine (tidy.note (.recycled i)).setObject lt ?_ busy
  intro k
  rw [count_append_object, count_cons_object, count_cons_object, on]
  show _ + (if k = i then (s.object i).references else 0)
    = _ + ((s.object i).nested.map (·.object)).count k
      + (if k = i then (s.object i).references else 0)
  -- the handles it held and the one to be parked are counted outside from now on
  rw [List.map_nil, List.count_nil, Handle.object_shared]
  omega

/-- With a dropped handle its reference goes, so that the count is right again. -/
theorem Tidy.forget {h : Handle} {i : Nat} (tidy : Tidy s (h :: outside)) (on : h.object = i) :
    Tidy (s.forget i) outside := by
  have mem : h ∈ h :: outside ++ s.nestedHandles := List.mem_append_left _ List.mem_cons_self
  have lt := tidy.lt_length mem
  have busy := tidy.not_parked mem
  have counted := tidy.counted h.object
  rw [Store.holders, count_cons_object, if_pos rfl] at counted
  rw [on] at lt busy counted
  refine tidy.setObject lt ?_ busy
  intro k
  rw [count_cons_object, on]
  -- the handle and the reference are gone together, and on other objects nothing changes
  by_cases same : k = i
  · simp only [if_pos same]
    omega
  · simp only [if_neg same]
    omega

/-- The last handle and its reference go together, and the handles that the object held are
outside. -/
theorem Tidy.destroy {h : Handle} {i : Nat} (tidy : Tidy s (h :: outside)) (on : h.object = i)
    (one : (s.object i).references = 1) :
    Tidy (s.destroy i).2 ((s.object i).nested ++ outside) := by
  have mem : h ∈ h :: outside ++ s.nestedHandles := List.mem_append_left _ List.mem_cons_self
  have lt := tidy.lt_length mem
  have busy := tidy.not_parked mem
  rw [on] at lt busy
  refine (tidy.note (.destroyed i)).setObject lt ?_ busy
  intro k
  rw [count_append_object, count_cons_object, on]
  show _ + (if k = i then (s.object i).references else 0)
    = _ + ((s.object i).nested.map (·.object)).count k + (if k = i then 0 else 0)
  -- the one reference that is taken away was that of the handle
  rw [one]
  simp only [List.map_nil, List.count_nil, ite_self]
  omega

/-- There is no room where there is no pool. -/
theorem Store.lt_of_room {p : Nat} (room : (s.pool p).idle.length < (s.pool p).maxIdle) :
    p < s.pools.length := by
  by_cases lt : p < s.pools.length
  · exact lt
  · rw [Store.pool_of_le (Nat.le_of_not_lt lt)] at room
    cases room

/-- The reference of the task becomes that of the pool. -/
theorem Tidy.park {h : Handle} {p i : Nat} (tidy : Tidy s (h :: outside)) (on : h.object = i)
    (asNew : s.object i = .asNew) (room : (s.pool p).idle.length < (s.pool p).maxIdle) :
    Tidy (s.setPool p { s.pool p with idle := (s.pool p).idle ++ [i] }) outside := by
  refine tidy.setPool (Store.lt_of_room room) ?_ ?_
  · intro k
    rw [count_cons_object, count_concat, on]
    omega
  · intro k mem
    -- what the pool held is as good as new, and so is what comes in
    rcases List.mem_append.1 mem with mem | mem
    · exact tidy.idle k (Store.mem_parked mem).2
    · rw [List.mem_singleton.1 mem]
      exact asNew

/-- No handle that is not shared comes to an object that another one refers to. -/
theorem Sound.recycle {h : Handle} {p i : Nat} (sound : Sound s (h :: outside)) (on : h.object = i)
    (one : (s.object i).references = 1) :
    Sound (s.recycle p i).2 ((s.object i).nested ++ .shared p i :: outside) := by
  have lt := sound.tidy.lt_length (List.mem_append_left _ List.mem_cons_self)
  rw [on] at lt
  refine (sound.note (.recycled i)).setObject lt (sound.tidy.recycle on) ?_ (.inl one)
  intro h' mem plain
  simp only [List.append_nil, List.mem_append, List.mem_cons] at mem
  -- a handle that is left was in the object, is the one of the task, or was outside before
  rcases mem with nested | rfl | out
  · exact List.mem_append_right _ (Store.mem_nestedHandles nested)
  · cases plain
  · exact List.mem_append_left _ (List.mem_cons_of_mem _ out)

/-- Letting go of a shared handle takes nothing from those who own an object. -/
theorem Sound.forget {p i : Nat} (sound : Sound s (.shared p i :: outside))
    (many : (s.object i).references ≠ 1) : Sound (s.forget i) outside := by
  have lt := sound.tidy.lt_length (List.mem_append_left _ List.mem_cons_self)
  refine sound.setObject lt (sound.tidy.forget rfl) ?_ (.inr ?_)
  · intro h mem _
    rcases List.mem_append.1 mem with out | nested
    · exact List.mem_append_left _ (List.mem_cons_of_mem _ out)
    · exact List.mem_append_right _ (Store.mem_nestedHandles nested)
  · -- a handle that is not shared would be the only reference, and there are others
    intro h mem plain on
    have before : h ∈ .shared p i :: outside ++ s.nestedHandles := by
      rcases List.mem_append.1 mem with out | nested
      · exact List.mem_append_left _ (List.mem_cons_of_mem _ out)
      · exact List.mem_append_right _ (Store.nested_of_setObject nested rfl)
    have one := sound.exclusive h before plain
    rw [on] at one
    exact many one

/-- What is destroyed has no handle left, so that nobody is deprived of an object. -/
theorem Sound.destroy {i : Nat} (sound : Sound s (.plain i :: outside))
    (one : (s.object i).references = 1) :
    Sound (s.destroy i).2 ((s.object i).nested ++ outside) := by
  have lt := sound.tidy.lt_length (List.mem_append_left _ List.mem_cons_self)
  have sole := sound.tidy.sole one
  refine (sound.note (.destroyed i)).setObject lt (sound.tidy.destroy rfl one) ?_ (.inr ?_)
  · intro h mem _
    rw [List.append_nil] at mem
    rcases List.mem_append.1 mem with nested | out
    · exact List.mem_append_right _ (Store.mem_nestedHandles nested)
    · exact List.mem_append_left _ (List.mem_cons_of_mem _ out)
  · -- nothing refers to what is destroyed, also not what it held
    intro h mem _
    rcases List.mem_append.1 mem with mem | nested
    · rcases List.mem_append.1 mem with nested | out
      · exact sole.1 h (List.mem_append_right _ (Store.mem_nestedHandles nested))
      · exact sole.1 h (List.mem_append_left _ out)
    · rcases mem_flatMap_set nested with nested | nested
      · exact sole.1 h (List.mem_append_right _ nested)
      · cases nested

/-- A pool that has room takes an object and stays within its limit. -/
theorem Sound.park {p i : Nat} (sound : Sound s (.shared p i :: outside))
    (asNew : s.object i = .asNew) (room : (s.pool p).idle.length < (s.pool p).maxIdle) :
    Sound (s.setPool p { s.pool p with idle := (s.pool p).idle ++ [i] }) outside := by
  refine sound.setPool (sound.tidy.park rfl asNew room) ?_ ?_
  · intro h mem plain
    exact sound.exclusive h (List.mem_append_left _ (List.mem_cons_of_mem _ mem)) plain
  · show ((s.pool p).idle ++ [i]).length ≤ (s.pool p).maxIdle
    rw [List.length_append]
    exact room

/-- What has no room is referred to like what has no pool. -/
theorem Sound.full {p i : Nat} (sound : Sound s (.shared p i :: outside))
    (asNew : s.object i = .asNew) : Sound s (.plain i :: outside) := by
  refine sound.exchange ?_ ?_
  · -- the one handle counts like the other
    intro k
    rw [count_cons_object, count_cons_object]
    rfl
  · intro h mem plain
    rcases List.mem_cons.1 mem with rfl | mem
    · rw [Handle.object_plain, asNew, Object.references_asNew]
    · exact sound.exclusive h (List.mem_append_left _ (List.mem_cons_of_mem _ mem)) plain

theorem handle_drops (handles : List Handle) :
    (handles.map Task.drop).map Task.handle = handles := by
  rw [List.map_map]
  exact List.map_id handles

/-- Performing a task keeps the store sound, with the handles of the tasks that it leads to in place
of its own. -/
theorem Does.sound (does : Does s t tasks s') (sound : Sound s (t.handle :: outside))
    (ready : t.Ready s) : Sound s' (tasks.map Task.handle ++ outside) := by
  cases does with
  | @recycle h p i last one =>
    have next := sound.recycle (p := p) (object_of_last last) one
    rw [Store.recycle, List.map_append, handle_drops, List.append_assoc]
    exact next
  | forget many => exact sound.forget many
  | destroy one =>
    have next := sound.destroy one
    rw [Store.destroy, handle_drops]
    exact next
  | park room => exact sound.park ready room
  | full noRoom => exact sound.full ready

/-- What a task leads to may be performed: only a recycled object is to be parked, and that is as
good as new. -/
theorem Does.ready (does : Does s t tasks s') (lt : t.handle.object < s.objects.length) :
    ∀ u ∈ tasks, u.Ready s' := by
  intro u mem
  cases does with
  | @recycle h p i last one =>
    -- the handles that it held are dropped, and the object itself is parked
    rcases List.mem_append.1 mem with nested | parks
    · rcases List.mem_map.1 nested with ⟨h', _, rfl⟩
      trivial
    · rw [Task.handle, object_of_last last] at lt
      rw [List.mem_singleton.1 parks, Task.Ready, Store.object_recycle lt, if_pos rfl, one]
      rfl
  | forget many => cases mem
  | destroy one =>
    rcases List.mem_map.1 mem with ⟨h', _, rfl⟩
    trivial
  | park room => cases mem
  | full noRoom =>
    rw [List.mem_singleton.1 mem]
    trivial

/-- Nothing comes to be held by an object. -/
theorem Does.nested (does : Does s t tasks s') :
    ∀ h ∈ s'.nestedHandles, h ∈ s.nestedHandles := by
  intro h mem
  cases does with
  | recycle last one =>
    -- the recycled object holds nothing now
    rcases mem_flatMap_set mem with old | new
    · exact old
    · cases new
  | forget many => exact Store.nested_of_setObject mem rfl
  | destroy one =>
    -- nor does the destroyed one
    rcases mem_flatMap_set mem with old | new
    · exact old
    · cases new
  | park room => exact mem
  | full noRoom => exact mem

/-- What handles show stays the same from one store to another. -/
structure Keeps (s s' : Store) (handles : List Handle) : Prop where
  nested : ∀ h ∈ s'.nestedHandles, h ∈ s.nestedHandles
  same : ∀ h ∈ handles ++ s'.nestedHandles,
    (s'.object h.object).contents = (s.object h.object).contents

/-- An object loses its contents only where no handle is left on it. -/
theorem Does.keeps (does : Does s t tasks s') (sound : Sound s (t.handle :: outside)) :
    Keeps s s' outside := by
  refine ⟨does.nested, ?_⟩
  intro h mem
  have lt := sound.tidy.lt_length (List.mem_append_left _ List.mem_cons_self)
  have before : h ∈ outside ++ s.nestedHandles := by
    rcases List.mem_append.1 mem with out | nested
    · exact List.mem_append_left _ out
    · exact List.mem_append_right _ (does.nested h nested)
  -- with one reference in all, that of the task, no other handle is on its object
  have left : (s.object t.handle.object).references = 1 → h.object ≠ t.handle.object :=
    fun one => (sound.tidy.sole one).1 h before
  by_cases same : h.object = t.handle.object
  · -- a handle is left on the object of the task, so that it is only let go of
    cases does with
    | recycle last one =>
      rcases last with rfl | rfl
      · exact absurd same (left one)
      · exact absurd same (left one)
    | @forget p i many =>
      have lt' : i < s.objects.length := lt
      have same' : h.object = i := same
      rw [same', Store.object_forget lt', if_pos rfl]
      rfl
    | destroy one => exact absurd same (left one)
    | park room => rfl
    | full noRoom => rfl
  · rw [does.object_eq lt same]

/-- What waits to be parked is not what is at hand: on one object, the two tasks would be two
references, but one is counted. -/
theorem Tidy.waiting_ne {rest : List Task} {p i : Nat}
    (tidy : Tidy s (t.handle :: (rest.map Task.handle ++ outside))) (waits : .park p i ∈ rest)
    (asNew : s.object i = .asNew) : i ≠ t.handle.object := by
  intro same
  have one : (s.object t.handle.object).references = 1 := by
    rw [← same, asNew, Object.references_asNew]
  have waiting : .shared p i ∈ rest.map Task.handle ++ outside :=
    List.mem_append_left _ (List.mem_map_of_mem waits)
  exact (tidy.sole one).1 _ (List.mem_append_left _ waiting) same

/-- Tasks that may be performed, with the handles outside that are left then. -/
structure Due (s : Store) (tasks : List Task) (outside : List Handle) : Prop where
  sound : Sound s (tasks.map Task.handle ++ outside)
  ready : ∀ t ∈ tasks, t.Ready s

/-- When a task is performed, what it leads to is due before the tasks that wait.  What waits to be
parked stays as good as new, since nobody else refers to it. -/
theorem Due.perform {rest : List Task} (due : Due s (t :: rest) outside) :
    Due (s.perform t).2 ((s.perform t).1 ++ rest) outside := by
  have does : Does s t (s.perform t).1 (s.perform t).2 := due.sound.does
  have lt := due.sound.tidy.lt_length (List.mem_append_left _ List.mem_cons_self)
  constructor
  · have next := does.sound due.sound (due.ready t List.mem_cons_self)
    rwa [List.map_append, List.append_assoc]
  · intro u mem
    -- a task is new, or it was waiting when this one was performed
    rcases List.mem_append.1 mem with new | waits
    · exact does.ready lt u new
    · have was : u.Ready s := due.ready u (List.mem_cons_of_mem _ waits)
      cases u with
      | drop h => trivial
      | park p i =>
        have asNew : s.object i = .asNew := was
        have other := due.sound.tidy.waiting_ne waits asNew
        show (s.perform t).2.object i = .asNew
        rw [does.object_eq lt other, asNew]

/-- Performing all tasks leaves a sound store. -/
theorem Due.performAll (due : Due s tasks outside) : Sound (s.performAll tasks) outside := by
  induction s, tasks using Store.performAll.induct with
  | case1 s =>
    rw [Store.performAll]
    exact due.sound
  | case2 s t rest ih =>
    rw [Store.performAll]
    exact ih due.perform

/-- Performing all tasks changes nothing of what the handles that are left show. -/
theorem Due.keeps (due : Due s tasks outside) : Keeps s (s.performAll tasks) outside := by
  induction s, tasks using Store.performAll.induct with
  | case1 s =>
    rw [Store.performAll]
    exact ⟨fun _ mem => mem, fun _ _ => rfl⟩
  | case2 s t rest ih =>
    have does : Does s t (s.perform t).1 (s.perform t).2 := due.sound.does
    have first := does.keeps due.sound
    have later := ih due.perform
    rw [Store.performAll]
    constructor
    · intro h mem
      exact first.nested h (later.nested h mem)
    · intro h mem
      -- a handle that is left at the end was there after the first task
      have between : h ∈ rest.map Task.handle ++ outside ++ (s.perform t).2.nestedHandles := by
        rcases List.mem_append.1 mem with out | nested
        · exact List.mem_append_left _ (List.mem_append_right _ out)
        · exact List.mem_append_right _ (later.nested h nested)
      exact (later.same h mem).trans (first.same h between)

/-- Handles outside may be dropped at any time. -/
theorem Sound.due {handles : List Handle} (sound : Sound s (handles ++ outside)) :
    Due s (handles.map .drop) outside := by
  constructor
  · rwa [handle_drops]
  · intro t mem
    rcases List.mem_map.1 mem with ⟨h, _, rfl⟩
    trivial

end

end SqlCompose.Pool
