import SqlCompose.Pool.Basic

/-! # Letting go of handles

When a pooled handle is dropped, or the last shared one, its object is recycled and parked.
Recycling clears the data and then drops the handles that the object held, first to last, before the
object itself is parked; an object that others still refer to is parked as it is.  Where the pool is
full, the object is not parked but loses that reference.  An object that loses its last reference is
destroyed, and the handles that it held are dropped.

All this is a list of tasks, each of which may put others in front of those that wait.  Every task
uses up a handle or a place to park (`weight_perform`), so that the work ends.
-/

namespace SqlCompose.Pool

/-- Something that is to be done when handles are dropped. -/
inductive Task where
  | drop (h : Handle)
  /-- Park an object in a pool, if there is room. -/
  | park (pool object : Nat)

/-- How many tasks a task may grow to, one after the other. -/
def Task.weight : Task → Nat
  | drop (.pooled _ _) => 3
  | drop (.shared _ _) => 3
  | park _ _ => 2
  | drop (.plain _) => 1

/-- The weight of tasks together. -/
def weight : List Task → Nat
  | [] => 0
  | t :: rest => t.weight + weight rest

/-- Weights of lists of tasks add up. -/
theorem weight_append (a b : List Task) : weight (a ++ b) = weight a + weight b := by
  induction a with
  | nil => simp [weight]
  | cons t rest ih => simp [weight, ih, Nat.add_assoc]

/-- The weight of dropping all handles that an object holds. -/
def Object.weight (o : Object) : Nat :=
  Pool.weight (o.nested.map .drop)

/-- The weight of dropping all handles that objects hold. -/
def heldWeight : List Object → Nat
  | [] => 0
  | o :: rest => o.weight + heldWeight rest

namespace Store

/-- The weight of dropping all handles that the objects of the store hold. -/
def weight (s : Store) : Nat :=
  heldWeight s.objects

/-- One reference less to an object. -/
def forget (s : Store) (i : Nat) : Store :=
  let o := s.object i
  s.setObject i { o with references := o.references - 1 }

/-- Make an object as good as new.  The handles that it held are dropped before it is parked. -/
def recycle (s : Store) (p i : Nat) : List Task × Store :=
  let o := s.object i
  (o.nested.map .drop ++ [.park p i],
    (s.note (.recycled i)).setObject i { o with data := [], nested := [] })

/-- Destroy an object.  The handles that it held are dropped. -/
def destroy (s : Store) (i : Nat) : List Task × Store :=
  ((s.object i).nested.map .drop, (s.note (.destroyed i)).setObject i {})

/-- Perform a task: what is left to do, and the store after it. -/
def perform (s : Store) : Task → List Task × Store
  | .drop (.pooled p i) =>
    if (s.object i).references = 1 then s.recycle p i else ([.park p i], s)
  | .drop (.shared p i) =>
    if (s.object i).references = 1 then s.recycle p i else ([], s.forget i)
  | .drop (.plain i) =>
    if (s.object i).references = 1 then s.destroy i else ([], s.forget i)
  | .park p i =>
    let f := s.pool p
    if f.idle.length < f.maxIdle then ([], s.setPool p { f with idle := f.idle ++ [i] })
    else ([.drop (.plain i)], s)

/-- Another object in place of a heavier one makes the store lighter by the difference. -/
theorem weight_setObject (s : Store) (i : Nat) (o : Object) (h : o.weight ≤ (s.object i).weight) :
    (s.setObject i o).weight + (s.object i).weight ≤ s.weight + o.weight := by
  obtain ⟨objects, _, _⟩ := s
  simp only [weight, setObject, object] at *
  induction objects generalizing i with
  | nil =>
    have hw : (({} : Object)).weight = 0 := rfl
    simp_all [heldWeight]
  | cons first rest ih =>
    cases i with
    | zero =>
      simp [heldWeight]
      -- only the first object counts towards the difference
      omega
    | succ i =>
      have := ih i (by simpa using h)
      simp [heldWeight] at this ⊢
      omega

/-- The handles that an object held move from the store to the tasks; parking adds two. -/
theorem weight_recycle (s : Store) (p i : Nat) :
    Pool.weight (s.recycle p i).1 + (s.recycle p i).2.weight ≤ 2 + s.weight := by
  have := weight_setObject (s.note (.recycled i)) i
    { s.object i with data := [], nested := [] } (Nat.zero_le _)
  simp [recycle, weight_append, Pool.weight, Task.weight, Object.weight, note, weight, object]
    at this ⊢
  omega

theorem weight_destroy (s : Store) (i : Nat) :
    Pool.weight (s.destroy i).1 + (s.destroy i).2.weight ≤ s.weight := by
  have := weight_setObject (s.note (.destroyed i)) i {} (Nat.zero_le _)
  simp [destroy, Pool.weight, Object.weight, note, weight, object] at this ⊢
  omega

/-- One reference less weighs nothing. -/
theorem weight_forget (s : Store) (i : Nat) : (s.forget i).weight ≤ s.weight := by
  have := weight_setObject s i { s.object i with references := (s.object i).references - 1 }
    (Nat.le_refl _)
  simp [forget, Object.weight] at this ⊢
  omega

/-- Every task leaves less to do than there was with it, so that letting go comes to an end. -/
theorem weight_perform (s : Store) (t : Task) :
    Pool.weight (s.perform t).1 + (s.perform t).2.weight < t.weight + s.weight := by
  match t with
  | .drop (.pooled p i) =>
    simp only [perform]
    split
    · have := s.weight_recycle p i
      simp only [Task.weight]
      omega
    · simp [Pool.weight, Task.weight]
  | .drop (.shared p i) =>
    simp only [perform]
    split
    · have := s.weight_recycle p i
      simp only [Task.weight]
      omega
    · have := s.weight_forget i
      simp only [Pool.weight, Task.weight]
      omega
  | .drop (.plain i) =>
    simp only [perform]
    split
    · have := s.weight_destroy i
      simp only [Task.weight]
      omega
    · have := s.weight_forget i
      simp only [Pool.weight, Task.weight]
      omega
  | .park p i =>
    simp only [perform]
    split
    · simp [Pool.weight, Task.weight, weight, setPool]
    · simp [Pool.weight, Task.weight]

/-- Perform tasks, and all that they lead to, in order. -/
def performAll (s : Store) : List Task → Store
  | [] => s
  | t :: rest => (s.perform t).2.performAll ((s.perform t).1 ++ rest)
  termination_by tasks => Pool.weight tasks + s.weight
  decreasing_by
    have := s.weight_perform t
    simp only [weight_append, Pool.weight]
    omega

def drop (s : Store) (h : Handle) : Store :=
  s.performAll [.drop h]

end Store

end SqlCompose.Pool
