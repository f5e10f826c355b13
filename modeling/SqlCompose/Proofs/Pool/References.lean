import SqlCompose.Pool.Release

/-! # Who refers to an object

An object is referred to by the handles outside of the store, by those that objects hold and by the
pools in which it is parked; `Store.holders` counts them.  A store is `Tidy` for the handles outside
if every object has been counted right and whatever is parked is as good as new.  It is `Sound` if,
moreover, an object with a handle that is not shared has no other reference, and no pool holds more
than its limit.

Objects and pools are changed one at a time.  `Tidy.setObject` and `Tidy.setPool` say once what such
a change has to keep in balance; what tasks and holders of handles do is a case of one of them, or
makes a new object (`Tidy.withNew`).  `Sound.setObject` and `Sound.setPool` say what else it has to
keep.
-/

namespace SqlCompose.Pool

/-! ## References -/

/-- Whether the handle may have others beside it. -/
def Handle.isShared : Handle → Bool
  | shared _ _ => true
  | _ => false

@[simp] theorem Handle.object_pooled (p i : Nat) : (pooled p i).object = i := rfl
@[simp] theorem Handle.object_shared (p i : Nat) : (shared p i).object = i := rfl
@[simp] theorem Handle.object_plain (i : Nat) : (plain i).object = i := rfl

/-- An object to which one handle refers and which is otherwise as it was made. -/
def Object.asNew : Object := { references := 1 }

@[simp] theorem Object.references_asNew : Object.asNew.references = 1 := rfl

/-- What is seen of an object through a handle. -/
def Object.contents (o : Object) : List Int × List Handle :=
  (o.data, o.nested)

namespace Store

def nestedHandles (s : Store) : List Handle :=
  s.objects.flatMap (·.nested)

/-- The objects that are parked, pool by pool. -/
def parked (s : Store) : List Nat :=
  s.pools.flatMap (·.idle)

/-- How many refer to an object: handles outside of the store, handles in it, and pools. -/
def holders (s : Store) (outside : List Handle) (i : Nat) : Nat :=
  (outside.map (·.object)).count i + (s.nestedHandles.map (·.object)).count i + s.parked.count i

end Store

/-- One item of a list gives way to another: what the items are mapped to changes by theirs. -/
theorem count_flatMap_set {α β : Type} [BEq β] {f : α → List β} {items : List α} {i : Nat} {a : α}
    (at_i : items[i]? = some a) (b : α) (x : β) :
    ((items.set i b).flatMap f).count x + (f a).count x
      = (items.flatMap f).count x + (f b).count x := by
  induction items generalizing i with
  | nil => cases at_i
  | cons first rest ih =>
    -- the replaced item is the first, or among the others
    cases i with
    | zero =>
      cases at_i
      simp only [List.set_cons_zero, List.flatMap_cons, List.count_append]
      omega
    | succ i =>
      have tail := ih at_i
      simp only [List.set_cons_succ, List.flatMap_cons, List.count_append]
      omega

/-- What comes of a list with one item replaced comes of the list or of the new item. -/
theorem mem_flatMap_set {α β : Type} {f : α → List β} {items : List α} {i : Nat} {b : α} {x : β}
    (mem : x ∈ (items.set i b).flatMap f) : x ∈ items.flatMap f ∨ x ∈ f b := by
  rcases List.mem_flatMap.1 mem with ⟨item, item_mem, x_mem⟩
  rcases List.mem_or_eq_of_mem_set item_mem with old | rfl
  · exact .inl (List.mem_flatMap.2 ⟨item, old, x_mem⟩)
  · exact .inr x_mem

/-- One handle more counts for its own object. -/
theorem count_cons_object (h : Handle) (handles : List Handle) (k : Nat) :
    ((h :: handles).map (·.object)).count k
      = (handles.map (·.object)).count k + if k = h.object then 1 else 0 := by
  rw [List.map_cons, List.count_cons]
  by_cases same : k = h.object
  · rw [if_pos same, if_pos (beq_iff_eq.2 same.symm)]
  · rw [if_neg same, if_neg fun eq => same (beq_iff_eq.1 eq).symm]

/-- One number more at the end counts for itself. -/
theorem count_concat (items : List Nat) (i k : Nat) :
    (items ++ [i]).count k = items.count k + if k = i then 1 else 0 := by
  rw [List.count_append, List.count_singleton]
  by_cases same : k = i
  · rw [if_pos same, if_pos (beq_iff_eq.2 same.symm)]
  · rw [if_neg same, if_neg fun eq => same (beq_iff_eq.1 eq).symm]

theorem count_append_object (a b : List Handle) (k : Nat) :
    ((a ++ b).map (·.object)).count k
      = (a.map (·.object)).count k + (b.map (·.object)).count k := by
  rw [List.map_append, List.count_append]

theorem count_pos_of_mem {handles : List Handle} {h : Handle} (mem : h ∈ handles) :
    0 < (handles.map (·.object)).count h.object :=
  List.count_pos_iff.2 (List.mem_map_of_mem mem)

/-- Two different handles on one object are counted twice. -/
theorem two_le_count {handles : List Handle} {h h' : Handle} (mem : h ∈ handles)
    (mem' : h' ∈ handles) (ne : h ≠ h') (same : h.object = h'.object) :
    2 ≤ (handles.map (·.object)).count h.object := by
  -- without the one handle the other one is still there
  have rest : h' ∈ handles.erase h := (List.mem_erase_of_ne (Ne.symm ne)).2 mem'
  have perm : (handles.map (·.object)).Perm (h.object :: (handles.erase h).map (·.object)) :=
    (List.perm_cons_erase mem).map (·.object)
  have pos := count_pos_of_mem rest
  rw [perm.count_eq, List.count_cons_self, same]
  omega

namespace Store

variable {s : Store} {i k : Nat} {o : Object}

/-- An object that was made is in the store. -/
theorem object_eq (lt : i < s.objects.length) : s.objects[i]? = some (s.object i) := by
  rw [object, List.getElem?_eq_getElem lt]
  rfl

/-- A number under which nothing was made stands for an object without references. -/
theorem object_of_le (le : s.objects.length ≤ i) : s.object i = {} := by
  rw [object, List.getElem?_eq_none le]
  rfl

/-- Nobody refers to an object that was never made. -/
theorem lt_of_references (pos : 0 < (s.object i).references) : i < s.objects.length := by
  by_cases lt : i < s.objects.length
  · exact lt
  · rw [object_of_le (Nat.le_of_not_lt lt)] at pos
    cases pos

/-- Another object in place of one leaves the others. -/
theorem object_setObject (lt : i < s.objects.length) :
    (s.setObject i o).object k = if k = i then o else s.object k := by
  simp only [object, setObject, List.getElem?_set]
  split
  · next same =>
    rw [if_pos same.symm]
    rfl
  · next other => rw [if_neg (Ne.symm other)]

/-- The handles in the store change by those of the object that is replaced. -/
theorem count_nestedHandles_setObject (lt : i < s.objects.length) :
    ((s.setObject i o).nestedHandles.map (·.object)).count k
        + ((s.object i).nested.map (·.object)).count k
      = (s.nestedHandles.map (·.object)).count k + (o.nested.map (·.object)).count k := by
  simp only [nestedHandles, List.map_flatMap]
  exact count_flatMap_set (object_eq lt) o k

/-- What an object holds is held in the store. -/
theorem mem_nestedHandles {h : Handle} (mem : h ∈ (s.object i).nested) : h ∈ s.nestedHandles := by
  by_cases lt : i < s.objects.length
  · exact List.mem_flatMap.2 ⟨s.object i, List.mem_of_getElem? (object_eq lt), mem⟩
  · -- an object that was never made holds nothing
    rw [object_of_le (Nat.le_of_not_lt lt)] at mem
    cases mem

/-- An object that holds what it held before adds nothing. -/
theorem nested_of_setObject {h : Handle} (mem : h ∈ (s.setObject i o).nestedHandles)
    (same : o.nested = (s.object i).nested) : h ∈ s.nestedHandles := by
  rcases mem_flatMap_set mem with old | new
  · exact old
  · exact mem_nestedHandles (same ▸ new)

theorem pool_eq {p : Nat} (lt : p < s.pools.length) : s.pools[p]? = some (s.pool p) := by
  rw [pool, List.getElem?_eq_getElem lt]
  rfl

/-- A number that no pool has stands for one that keeps nothing. -/
theorem pool_of_le {p : Nat} (le : s.pools.length ≤ p) : s.pool p = { maxIdle := 0 } := by
  rw [pool, List.getElem?_eq_none le]
  rfl

/-- What a pool has parked is parked, and there is such a pool. -/
theorem mem_parked {p : Nat} (mem : i ∈ (s.pool p).idle) : p < s.pools.length ∧ i ∈ s.parked := by
  by_cases lt : p < s.pools.length
  · exact ⟨lt, List.mem_flatMap.2 ⟨s.pool p, List.mem_of_getElem? (pool_eq lt), mem⟩⟩
  · rw [pool_of_le (Nat.le_of_not_lt lt)] at mem
    cases mem

end Store

/-! ## Tidy stores -/

/-- The references are counted, and what is parked is as good as new. -/
structure Tidy (s : Store) (outside : List Handle) : Prop where
  /-- Every object knows how many refer to it. -/
  counted : ∀ i, (s.object i).references = s.holders outside i
  /-- What is parked is as good as new. -/
  idle : ∀ i ∈ s.parked, s.object i = .asNew

namespace Tidy

variable {s : Store} {outside outside' : List Handle}

theorem note (tidy : Tidy s outside) (e : Event) : Tidy (s.note e) outside :=
  ⟨tidy.counted, tidy.idle⟩

/-- The handles outside are others, on the same objects. -/
theorem exchange (tidy : Tidy s outside)
    (balance : ∀ k, (outside'.map (·.object)).count k = (outside.map (·.object)).count k) :
    Tidy s outside' := by
  refine ⟨?_, tidy.idle⟩
  intro k
  rw [tidy.counted k, Store.holders, Store.holders, balance k]

/-- The order of the handles outside is of no importance. -/
theorem perm (tidy : Tidy s outside) (perm : outside.Perm outside') : Tidy s outside' :=
  tidy.exchange fun k => ((perm.map (·.object)).count_eq k).symm

/-- Whoever is referred to has been made. -/
theorem lt_length (tidy : Tidy s outside) {h : Handle} (mem : h ∈ outside ++ s.nestedHandles) :
    h.object < s.objects.length := by
  have pos := count_pos_of_mem mem
  apply Store.lt_of_references
  rw [tidy.counted, Store.holders]
  rw [List.map_append, List.count_append] at pos
  omega

/-- What is parked has one reference, that of its pool. -/
theorem references_of_parked (tidy : Tidy s outside) {i : Nat} (mem : i ∈ s.parked) :
    (s.object i).references = 1 := by
  rw [tidy.idle i mem, Object.references_asNew]

/-- The only reference to what is parked is that of its pool: no handle is on it. -/
theorem not_parked (tidy : Tidy s outside) {h : Handle} (mem : h ∈ outside ++ s.nestedHandles) :
    h.object ∉ s.parked := by
  intro parked
  have counted := tidy.counted h.object
  rw [tidy.references_of_parked parked, Store.holders, ← count_append_object] at counted
  have handles := count_pos_of_mem mem
  have pools := List.count_pos_iff.2 parked
  omega

/-- The only reference to an object is a handle outside: no other handle is on it, and no pool has
it. -/
theorem sole {h : Handle} (tidy : Tidy s (h :: outside))
    (one : (s.object h.object).references = 1) :
    (∀ h' ∈ outside ++ s.nestedHandles, h'.object ≠ h.object) ∧ h.object ∉ s.parked := by
  refine ⟨?_, tidy.not_parked (List.mem_append_left _ List.mem_cons_self)⟩
  have counted := tidy.counted h.object
  rw [one, Store.holders, count_cons_object, if_pos rfl] at counted
  intro h' mem same
  have pos := count_pos_of_mem mem
  rw [same, count_append_object] at pos
  omega

/-- An object is changed, and the handles outside with it: its count goes up and down with the
handles. -/
theorem setObject (tidy : Tidy s outside) {i : Nat} (lt : i < s.objects.length) {o : Object}
    (balance : ∀ k, (outside'.map (·.object)).count k + (o.nested.map (·.object)).count k
        + (if k = i then (s.object i).references else 0)
      = (outside.map (·.object)).count k + ((s.object i).nested.map (·.object)).count k
        + (if k = i then o.references else 0))
    (busy : i ∉ s.parked) : Tidy (s.setObject i o) outside' := by
  constructor
  · intro k
    have before := tidy.counted k
    have nested := @Store.count_nestedHandles_setObject s i k o lt
    have change := balance k
    have parked : (s.setObject i o).parked = s.parked := rfl
    rw [Store.object_setObject lt]
    rw [Store.holders] at before ⊢
    rw [parked]
    -- the pools are as before, and of the handles in the store only those of `i` change
    by_cases same : k = i
    · subst same
      simp only [if_pos] at change ⊢
      omega
    · simp only [if_neg same] at change ⊢
      omega
  · intro k mem
    have ne : k ≠ i := by
      rintro rfl
      exact busy mem
    rw [Store.object_setObject lt, if_neg ne]
    exact tidy.idle k mem

/-- A pool is changed, and the handles outside with it: what is parked is no longer referred to by a
handle, and the other way round. -/
theorem setPool (tidy : Tidy s outside) {p : Nat} (lt : p < s.pools.length) {f : FreeList}
    (balance : ∀ k, (outside'.map (·.object)).count k + f.idle.count k
      = (outside.map (·.object)).count k + (s.pool p).idle.count k)
    (idle : ∀ i ∈ f.idle, s.object i = .asNew) : Tidy (s.setPool p f) outside' := by
  constructor
  · intro k
    have before := tidy.counted k
    have parked : (s.setPool p f).parked.count k + (s.pool p).idle.count k
        = s.parked.count k + f.idle.count k := count_flatMap_set (Store.pool_eq lt) f k
    have nested : (s.setPool p f).nestedHandles = s.nestedHandles := rfl
    have change := balance k
    rw [Store.holders] at before ⊢
    rw [nested]
    show (s.object k).references = _
    omega
  · intro i mem
    rcases mem_flatMap_set mem with mem | mem
    · exact tidy.idle i mem
    · exact idle i mem

end Tidy

/-! ## Sound stores -/

/-- The store keeps to what its pools promise, given the handles outside of it. -/
structure Sound (s : Store) (outside : List Handle) : Prop where
  /-- Every object knows how many refer to it. -/
  counted : ∀ i, (s.object i).references = s.holders outside i
  /-- A handle that is not shared is the only reference to its object. -/
  exclusive : ∀ h ∈ outside ++ s.nestedHandles, h.isShared = false →
    (s.object h.object).references = 1
  /-- What is parked is as good as new. -/
  idle : ∀ i ∈ s.parked, s.object i = .asNew
  /-- No pool is over its limit. -/
  room : ∀ f ∈ s.pools, f.idle.length ≤ f.maxIdle

namespace Sound

variable {s : Store} {outside outside' : List Handle}

theorem tidy (sound : Sound s outside) : Tidy s outside :=
  ⟨sound.counted, sound.idle⟩

theorem note (sound : Sound s outside) (e : Event) : Sound (s.note e) outside :=
  ⟨sound.counted, sound.exclusive, sound.idle, sound.room⟩

/-- The order of the handles outside is of no importance. -/
theorem perm (sound : Sound s outside) (perm : outside.Perm outside') : Sound s outside' := by
  refine ⟨(sound.tidy.perm perm).counted, ?_, sound.idle, sound.room⟩
  intro h mem
  have before : h ∈ outside ++ s.nestedHandles := (perm.append_right _).mem_iff.2 mem
  exact sound.exclusive h before

/-- Nobody but its owner refers to an object. -/
theorem owner (sound : Sound s outside) {h : Handle} (mem : h ∈ outside)
    (plain : h.isShared = false) :
    (∀ h' ∈ outside.erase h ++ s.nestedHandles, h'.object ≠ h.object) ∧ h.object ∉ s.parked :=
  (sound.perm (List.perm_cons_erase mem)).tidy.sole
    (sound.exclusive h (List.mem_append_left _ mem) plain)

/-- An object is changed, and the handles outside with it: no handle becomes one that is not
shared. -/
theorem setObject (sound : Sound s outside) {i : Nat} (lt : i < s.objects.length) {o : Object}
    (tidy : Tidy (s.setObject i o) outside')
    (old : ∀ h ∈ outside' ++ o.nested, h.isShared = false → h ∈ outside ++ s.nestedHandles)
    (sole : o.references = 1 ∨ ∀ h ∈ outside' ++ (s.setObject i o).nestedHandles,
      h.isShared = false → h.object ≠ i) : Sound (s.setObject i o) outside' := by
  refine ⟨tidy.counted, ?_, tidy.idle, sound.room⟩
  intro h mem plain
  have before : h ∈ outside ++ s.nestedHandles := by
    rcases List.mem_append.1 mem with out | nested
    · exact old h (List.mem_append_left _ out) plain
    · rcases mem_flatMap_set nested with nested | nested
      · exact List.mem_append_right _ nested
      · exact old h (List.mem_append_right _ nested) plain
  rw [Store.object_setObject lt]
  split
  · next same =>
    -- the object of this handle is the one that was replaced
    rcases sole with one | none
    · exact one
    · exact absurd same (none h mem plain)
  · exact sound.exclusive h before plain

/-- The handles outside are others, on the same objects. -/
theorem exchange (sound : Sound s outside)
    (balance : ∀ k, (outside'.map (·.object)).count k = (outside.map (·.object)).count k)
    (old : ∀ h ∈ outside', h.isShared = false → (s.object h.object).references = 1) :
    Sound s outside' := by
  refine ⟨(sound.tidy.exchange balance).counted, ?_, sound.idle, sound.room⟩
  intro h mem plain
  rcases List.mem_append.1 mem with out | nested
  · exact old h out plain
  · exact sound.exclusive h (List.mem_append_right _ nested) plain

/-- A pool is changed, and the handles outside with it: it is not over its limit. -/
theorem setPool (sound : Sound s outside) {p : Nat} {f : FreeList}
    (tidy : Tidy (s.setPool p f) outside')
    (old : ∀ h ∈ outside', h.isShared = false → (s.object h.object).references = 1)
    (room : f.idle.length ≤ f.maxIdle) : Sound (s.setPool p f) outside' := by
  refine ⟨tidy.counted, ?_, tidy.idle, ?_⟩
  · intro h mem plain
    rcases List.mem_append.1 mem with out | nested
    · exact old h out plain
    · exact sound.exclusive h (List.mem_append_right _ nested) plain
  · intro g mem
    rcases List.mem_or_eq_of_mem_set mem with mem | rfl
    · exact sound.room g mem
    · exact room

end Sound

/-! ## New objects -/

/-- The store with one object more. -/
def Store.withNew (s : Store) : Store :=
  { s with objects := s.objects ++ [.asNew] }

/-- The new object has the next number. -/
theorem Store.object_withNew (s : Store) (k : Nat) :
    s.withNew.object k = if k = s.objects.length then .asNew else s.object k := by
  simp only [object, withNew, List.getElem?_append]
  split
  · next lt => rw [if_neg (Nat.ne_of_lt lt)]
  · next ge =>
    by_cases same : k = s.objects.length
    · subst same
      rw [if_pos rfl, Nat.sub_self]
      rfl
    · have gt : s.objects.length < k := by omega
      have none : [Object.asNew][k - s.objects.length]? = none :=
        List.getElem?_eq_none (by rw [List.length_singleton]; omega)
      rw [if_neg same, none, List.getElem?_eq_none (Nat.le_of_lt gt)]

theorem Store.nestedHandles_withNew (s : Store) : s.withNew.nestedHandles = s.nestedHandles := by
  simp only [nestedHandles, withNew, List.flatMap_append, List.flatMap_singleton, Object.asNew,
    List.append_nil]

/-- One handle may refer to a new object. -/
theorem Tidy.withNew {s : Store} {outside : List Handle} (tidy : Tidy s outside) {h : Handle}
    (new : h.object = s.objects.length) : Tidy s.withNew (h :: outside) := by
  constructor
  · intro k
    have before := tidy.counted k
    rw [Store.holders] at before
    have parked : s.withNew.parked = s.parked := rfl
    rw [Store.object_withNew, Store.holders, s.nestedHandles_withNew, parked, count_cons_object,
      new]
    split
    · next same =>
      rw [same, Store.object_of_le (Nat.le_refl _)] at before
      -- nobody could refer to the object before it was made
      have nobody : 0 = (outside.map (·.object)).count s.objects.length
        + (s.nestedHandles.map (·.object)).count s.objects.length
        + s.parked.count s.objects.length := before
      rw [same]
      show 1 = _
      -- and now one handle does
      omega
    · omega
  · intro i mem
    rw [Store.object_withNew]
    split
    · rfl
    · exact tidy.idle i mem

/-- The one handle on a new object may be of any sort. -/
theorem Sound.withNew {s : Store} {outside : List Handle} (sound : Sound s outside) {h : Handle}
    (new : h.object = s.objects.length) : Sound s.withNew (h :: outside) := by
  have tidy := sound.tidy.withNew new
  refine ⟨tidy.counted, ?_, tidy.idle, sound.room⟩
  intro h' mem plain
  rw [Store.object_withNew]
  split
  · rfl
  · next other =>
    rw [s.nestedHandles_withNew] at mem
    rcases List.mem_cons.1 mem with rfl | mem
    · exact absurd new other
    · exact sound.exclusive h' mem plain

end SqlCompose.Pool
