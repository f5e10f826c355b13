import Mathlib.Logic.Function.Basic
import SqlCompose.Proofs.Pool.Lending

/-! # What is written into objects

`Content` is what has been written into an object and into those that it holds, as a value of its
own: no pool and no reference is in it.  A store is `Faithful` to what has been written if every
object that a handle is on agrees with it, one object at a time; then all that is found by following
handles from there agrees with it (`Faithful.shows`).

`Tracked` is the invariant of all that holders of handles do: the store is sound and faithful to
what they wrote, and what is shared is as it was when its fill ended.  Every action is a lemma below
that says which handles there are after it, and what has been written.
-/

namespace SqlCompose.Pool

/-- What is written into an object, with what is written into those that it holds. -/
structure Content where
  data : List Int := []
  nested : List Content := []

/-- The content that is reached by going to so many nested ones. -/
def Content.follow (c : Content) : List Nat → Option Content
  | [] => some c
  | k :: path =>
    match c.nested[k]? with
    | some d => d.follow path
    | none => none

/-- The object that is reached by following so many nested handles. -/
def Store.follow (s : Store) (i : Nat) : List Nat → Option Object
  | [] => some (s.object i)
  | k :: path =>
    match (s.object i).nested[k]? with
    | some h => s.follow h.object path
    | none => none

/-- An object, and every other that is reached from it, has the data and as many nested handles as
the content says. -/
def Store.Shows (s : Store) (i : Nat) (c : Content) : Prop :=
  ∀ path, (s.follow i path).map (fun o => (o.data, o.nested.length))
    = (c.follow path).map (fun d => (d.data, d.nested.length))

/-- What has been written into an object whose nested ones are known. -/
def Object.content (o : Object) (written : Nat → Content) : Content :=
  ⟨o.data, o.nested.map fun h => written h.object⟩

/-- Every object that a handle is on is as it was written. -/
def Faithful (s : Store) (outside : List Handle) (written : Nat → Content) : Prop :=
  ∀ h ∈ outside ++ s.nestedHandles, written h.object = (s.object h.object).content written

variable {s s' : Store} {outside outside' : List Handle} {written filled : Nat → Content}

/-- What was written is what is seen, however far one goes. -/
theorem Faithful.shows (faithful : Faithful s outside written) {h : Handle}
    (mem : h ∈ outside ++ s.nestedHandles) : s.Shows h.object (written h.object) := by
  intro path
  induction path generalizing h with
  | nil =>
    rw [Store.follow, Content.follow, faithful h mem, Object.content, Option.map_some,
      Option.map_some, List.length_map]
  | cons k path ih =>
    -- the content of a nested object is what was written into it
    have nested : (written h.object).nested[k]?
        = (s.object h.object).nested[k]?.map fun c => written c.object := by
      rw [faithful h mem]
      exact List.getElem?_map
    rw [Store.follow, Content.follow, nested]
    cases at_k : (s.object h.object).nested[k]? with
    | none => rfl
    | some c =>
      have inner : c ∈ s.nestedHandles := Store.mem_nestedHandles (List.mem_of_getElem? at_k)
      exact ih (List.mem_append_right _ inner)

/-- What is written into an object depends on its data and its handles alone. -/
theorem content_of_contents {o o' : Object} (same : o'.contents = o.contents) :
    o'.content written = o.content written := by
  have parts := Prod.mk.inj same
  rw [Object.content, Object.content, parts.1, parts.2]

/-- Handles are left on objects that stay as they were. -/
theorem Faithful.mono (faithful : Faithful s outside written)
    (kept : ∀ h ∈ outside' ++ s'.nestedHandles, (s'.object h.object).contents
      = (s.object h.object).contents ∧ ∃ h' ∈ outside ++ s.nestedHandles, h'.object = h.object) :
    Faithful s' outside' written := by
  intro h mem
  rcases kept h mem with ⟨same, h', mem', on⟩
  have was := faithful h' mem'
  rw [on] at was
  rw [was, content_of_contents same]

/-- One object is written to, which no other holds. -/
theorem Faithful.write (faithful : Faithful s outside written) {i : Nat}
    (kept : ∀ h ∈ outside' ++ s'.nestedHandles, h.object ≠ i → (s'.object h.object).contents
      = (s.object h.object).contents ∧ ∃ h' ∈ outside ++ s.nestedHandles, h'.object = h.object)
    (apart : ∀ h ∈ s'.nestedHandles, h.object ≠ i) :
    Faithful s' outside' (Function.update written i ((s'.object i).content written)) := by
  -- no object holds the one that is written to, so that no other content has its own in it
  have unread (k : Nat) : (s'.object k).content
      (Function.update written i ((s'.object i).content written))
        = (s'.object k).content written := by
    simp only [Object.content, Content.mk.injEq, true_and]
    apply List.map_congr_left
    intro c mem
    exact Function.update_of_ne (apart c (Store.mem_nestedHandles mem)) _ _
  intro h mem
  rw [unread]
  by_cases on : h.object = i
  · rw [on, Function.update_self]
  · rcases kept h mem on with ⟨same, h', mem', on'⟩
    have was := faithful h' mem'
    rw [on'] at was
    rw [Function.update_of_ne on, was, content_of_contents same]

/-- The store keeps what its holders wrote. -/
structure Tracked (s : Store) (outside : List Handle) (written filled : Nat → Content) : Prop where
  sound : Sound s outside
  faithful : Faithful s outside written
  /-- What is shared is as it was when its fill ended. -/
  finished : ∀ h ∈ outside ++ s.nestedHandles, h.isShared → written h.object = filled h.object

namespace Tracked

theorem perm (tracked : Tracked s outside written filled) (perm : outside.Perm outside') :
    Tracked s outside' written filled := by
  have mem (h : Handle) : h ∈ outside' ++ s.nestedHandles → h ∈ outside ++ s.nestedHandles :=
    (perm.append_right _).mem_iff.2
  constructor
  · exact tracked.sound.perm perm
  · intro h mem'
    exact tracked.faithful h (mem h mem')
  · intro h mem'
    exact tracked.finished h (mem h mem')

/-- An object is handed out, into which nothing has been written. -/
theorem lend (tracked : Tracked s outside written filled) {i : Nat}
    (lends : Lends s outside i s') {h : Handle} (on : h.object = i) (plain : h.isShared = false) :
    Tracked s' (h :: outside) (Function.update written i {}) filled := by
  have old : ∀ h' ∈ h :: outside ++ s'.nestedHandles, h' ≠ h → h' ∈ outside ++ s.nestedHandles := by
    intro h' mem ne
    rw [lends.nested] at mem
    rcases List.mem_cons.1 mem with rfl | mem
    · exact absurd rfl ne
    · exact mem
  constructor
  · exact lends.sound h on
  · -- the content of an object as good as new
    have nothing : ({} : Content) = (s'.object i).content written := by
      rw [lends.asNew]
      rfl
    rw [nothing]
    refine tracked.faithful.write ?_ ?_
    · intro h' mem other
      have ne : h' ≠ h := by
        rintro rfl
        exact other on
      rw [lends.others _ other]
      exact ⟨rfl, h', old h' mem ne, rfl⟩
    · intro h' mem
      rw [lends.nested] at mem
      exact lends.free h' (List.mem_append_right _ mem)
  · intro h' mem shared
    have ne : h' ≠ h := by
      rintro rfl
      rw [plain] at shared
      cases shared
    have before := old h' mem ne
    rw [Function.update_of_ne (lends.free h' before)]
    exact tracked.finished h' before shared

/-- The owner of an object writes to it, and moves handles into it and out of it. -/
theorem own (tracked : Tracked s outside written filled) {h : Handle} (mem : h ∈ outside)
    (plain : h.isShared = false) {o : Object} (one : o.references = 1) (apart : h ∉ o.nested)
    (moved : (outside' ++ o.nested).Perm (outside ++ (s.object h.object).nested)) :
    Tracked (s.setObject h.object o) outside'
      (Function.update written h.object (o.content written)) filled := by
  have owner := tracked.sound.owner mem plain
  have lt := tracked.sound.tidy.lt_length (List.mem_append_left _ mem)
  have old : ∀ h' ∈ outside' ++ (s.setObject h.object o).nestedHandles,
      h' ∈ outside ++ s.nestedHandles := by
    -- what the object holds now, or what is held outside, was somewhere before
    have either : ∀ h' ∈ outside' ++ o.nested, h' ∈ outside ++ s.nestedHandles := by
      intro h' mem'
      rcases List.mem_append.1 (moved.mem_iff.1 mem') with out | nested
      · exact List.mem_append_left _ out
      · exact List.mem_append_right _ (Store.mem_nestedHandles nested)
    intro h' mem'
    rcases List.mem_append.1 mem' with out | nested
    · exact either h' (List.mem_append_left _ out)
    · rcases mem_flatMap_set nested with nested | nested
      · exact List.mem_append_right _ nested
      · exact either h' (List.mem_append_right _ nested)
  have here : (s.setObject h.object o).object h.object = o := by
    rw [Store.object_setObject lt, if_pos rfl]
  constructor
  · exact tracked.sound.rearrange mem plain one moved
  · have write := @Faithful.write s (s.setObject h.object o) outside outside' written
      tracked.faithful h.object
    rw [here] at write
    apply write
    · intro h' mem' other
      rw [Store.object_setObject lt, if_neg other]
      exact ⟨rfl, h', old h' mem', rfl⟩
    · intro h' mem'
      rcases mem_flatMap_set mem' with nested | nested
      · exact owner.1 h' (List.mem_append_right _ nested)
      · rcases List.mem_append.1 (moved.mem_iff.1 (List.mem_append_right _ nested)) with out | inner
        · -- what is moved in is another handle, and the owner has the only one on his object
          have ne : h' ≠ h := by
            rintro rfl
            exact apart nested
          exact owner.1 h' (List.mem_append_left _ ((List.mem_erase_of_ne ne).2 out))
        · exact owner.1 h' (List.mem_append_right _ (Store.mem_nestedHandles inner))
  · intro h' mem' shared
    have before := old h' mem'
    have other : h'.object ≠ h.object := by
      intro same
      exact (tracked.sound.shared before shared).1 h (List.mem_append_left _ mem) plain same.symm
    rw [Function.update_of_ne other]
    exact tracked.finished h' before shared

/-- Handles are dropped, with all that they lead to. -/
theorem performAll {tasks : List Task} (due : Due s tasks outside)
    (faithful : Faithful s outside written)
    (finished : ∀ h ∈ outside ++ s.nestedHandles, h.isShared → written h.object = filled h.object) :
    Tracked (s.performAll tasks) outside written filled := by
  have keeps := due.keeps
  have old : ∀ h ∈ outside ++ (s.performAll tasks).nestedHandles,
      h ∈ outside ++ s.nestedHandles := by
    intro h mem
    rcases List.mem_append.1 mem with out | nested
    · exact List.mem_append_left _ out
    · exact List.mem_append_right _ (keeps.nested h nested)
  constructor
  · exact due.performAll
  · apply faithful.mono
    intro h mem
    exact ⟨keeps.same h mem, h, old h mem, rfl⟩
  · intro h mem
    exact finished h (old h mem)

/-- A handle is dropped, with all that it leads to. -/
theorem drop {h : Handle} (tracked : Tracked s (h :: outside) written filled) :
    Tracked (s.drop h) outside written filled := by
  have due : Due s ([h].map .drop) outside := tracked.sound.due
  apply performAll due
  · intro h' mem
    exact tracked.faithful h' (List.mem_cons_of_mem _ mem)
  · intro h' mem
    exact tracked.finished h' (List.mem_cons_of_mem _ mem)

theorem setMaxIdle (tracked : Tracked s outside written filled) (p limit : Nat) :
    Tracked (setMaxIdle p limit s).2 outside written filled :=
  performAll (tracked.sound.limit p limit) tracked.faithful tracked.finished

/-- A further handle on what is shared shows the same. -/
theorem clone (tracked : Tracked s outside written filled) {h : Handle}
    (mem : h ∈ outside ++ s.nestedHandles) (shared : h.isShared) :
    Tracked (clone h s).2 (h :: outside) written filled := by
  have lt := tracked.sound.tidy.lt_length mem
  have old : ∀ h' ∈ h :: outside ++ (Pool.clone h s).2.nestedHandles,
      h' ∈ outside ++ s.nestedHandles := by
    intro h' mem'
    rcases List.mem_append.1 mem' with out | nested
    · rcases List.mem_cons.1 out with rfl | out
      · exact mem
      · exact List.mem_append_left _ out
    · exact List.mem_append_right _ (Store.nested_of_setObject nested rfl)
  constructor
  · exact tracked.sound.clone mem shared
  · apply tracked.faithful.mono
    intro h' mem'
    refine ⟨?_, h', old h' mem', rfl⟩
    show ((s.setObject h.object _).object h'.object).contents = _
    rw [Store.object_setObject lt]
    -- the object has one reference more and is seen as before
    split
    · next same =>
      rw [same]
      rfl
    · rfl
  · intro h' mem'
    exact tracked.finished h' (old h' mem')

/-- A handle gives way to another one on its object. -/
theorem exchange {h h' : Handle} (tracked : Tracked s (h :: outside) written filled)
    (on : h'.object = h.object) (one : h'.isShared = false → h.isShared = false)
    (known : h'.isShared → written h.object = filled h.object) :
    Tracked s (h' :: outside) written filled := by
  constructor
  · refine tracked.sound.exchange ?_ ?_
    · intro k
      rw [count_cons_object, count_cons_object, on]
    · intro g mem plain
      rcases List.mem_cons.1 mem with rfl | mem
      · rw [on]
        exact tracked.sound.exclusive h (List.mem_append_left _ List.mem_cons_self) (one plain)
      · exact tracked.sound.exclusive g
          (List.mem_append_left _ (List.mem_cons_of_mem _ mem)) plain
  · intro g mem
    rcases List.mem_cons.1 mem with rfl | mem
    · rw [on]
      exact tracked.faithful h (List.mem_append_left _ List.mem_cons_self)
    · exact tracked.faithful g (List.mem_cons_of_mem _ mem)
  · intro g mem shared
    rcases List.mem_cons.1 mem with rfl | mem
    · rw [on]
      exact known shared
    · exact tracked.finished g (List.mem_cons_of_mem _ mem) shared

/-- A fill ends: what was written into the object is what its handles show from now on. -/
theorem finish {p i : Nat} (tracked : Tracked s (.plain i :: outside) written filled) :
    Tracked s (.shared p i :: outside) written (Function.update filled i (written i)) := by
  have one := tracked.sound.exclusive (.plain i) (List.mem_append_left _ List.mem_cons_self) rfl
  have apart : ∀ h ∈ outside ++ s.nestedHandles, h.object ≠ i := (tracked.sound.tidy.sole one).1
  -- no other shared handle is on the object, so that the others do not notice
  have noted : Tracked s (.plain i :: outside) written (Function.update filled i (written i)) := by
    refine ⟨tracked.sound, tracked.faithful, ?_⟩
    intro h mem shared
    rcases List.mem_cons.1 mem with rfl | old
    · cases shared
    · rw [Function.update_of_ne (apart h old)]
      exact tracked.finished h mem shared
  refine noted.exchange rfl (fun shared => by cases shared) ?_
  intro _
  rw [Handle.object_plain, Function.update_self]

end Tracked

end SqlCompose.Pool
