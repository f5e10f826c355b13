import SqlCompose.Pool.Lending
import SqlCompose.Proofs.Pool.Release

/-! # What holders of handles do

Every action leaves a sound store, and a tidy one tidy.  An object is handed out as good as new
(`Sound.take`), be it to a borrower or to be filled and shared (`Sound.openNode`); whoever has the
only handle on it may change it and move handles into and out of it (`Sound.rearrange`); what is
shared may be referred to once more (`Sound.clone`), as far as tidiness goes also what is not
(`Tidy.retain`); and a pool may be given another limit (`Sound.limit`).
-/

namespace SqlCompose.Pool

variable {s : Store} {outside outside' : List Handle}

/-! ## Objects handed out -/

/-- An object is handed out: it is as good as new, and no handle was on it. -/
structure Lends (s : Store) (outside : List Handle) (i : Nat) (s' : Store) : Prop where
  asNew : s'.object i = .asNew
  others : ∀ k, k ≠ i → s'.object k = s.object k
  nested : s'.nestedHandles = s.nestedHandles
  /-- Any one handle may refer to the object now. -/
  sound : ∀ h : Handle, h.object = i → Sound s' (h :: outside)

theorem Lends.references_eq {i : Nat} {s' : Store} (lends : Lends s outside i s') :
    (s'.object i).references = 1 := by
  rw [lends.asNew, Object.references_asNew]

/-- Nobody else refers to what is handed out. -/
theorem Lends.free {i : Nat} {s' : Store} (lends : Lends s outside i s') :
    ∀ h ∈ outside ++ s.nestedHandles, h.object ≠ i := by
  have sole := (lends.sound (.plain i) rfl).tidy.sole lends.references_eq
  rw [lends.nested] at sole
  exact sole.1

theorem Lends.note {i : Nat} {s' : Store} (lends : Lends s outside i s') (e : Event) :
    Lends s outside i (s'.note e) :=
  ⟨lends.asNew, lends.others, lends.nested, fun h on => (lends.sound h on).note e⟩

/-- An object that is made is as good as new. -/
theorem create_asNew (s : Store) : (create s).2.object (create s).1 = .asNew :=
  (s.object_withNew s.objects.length).trans (if_pos rfl)

theorem Tidy.create (tidy : Tidy s outside) {h : Handle} (on : h.object = (Pool.create s).1) :
    Tidy (Pool.create s).2 (h :: outside) :=
  (tidy.withNew on).note _

/-- A new object may be handed out, as no handle is on it. -/
theorem Sound.create (sound : Sound s outside) :
    Lends s outside (create s).1 (create s).2 := by
  have lends : Lends s outside s.objects.length s.withNew := by
    constructor
    · rw [Store.object_withNew, if_pos rfl]
    · intro k other
      rw [Store.object_withNew, if_neg other]
    · exact s.nestedHandles_withNew
    · intro h on
      exact sound.withNew on
  exact ⟨lends.asNew, lends.others, lends.nested, fun h on => (lends.sound h on).note _⟩

/-- The object parked last is taken, or one is made where none is parked. -/
theorem take_cases (p : Nat) (s : Store) :
    (∃ idle i, (s.pool p).idle = idle ++ [i] ∧
      take p s = (i, s.setPool p { s.pool p with idle := idle })) ∨
    ((s.pool p).idle = [] ∧ take p s = create s) := by
  -- the object parked last, if there is one
  cases last : (s.pool p).idle.getLast? with
  | none =>
    have made : take p s = create s := by
      simp only [take, bind, StateT.bind, get, getThe, MonadStateOf.get, StateT.get, pure, last]
    exact .inr ⟨List.getLast?_eq_none_iff.1 last, made⟩
  | some i =>
    rcases List.getLast?_eq_some_iff.1 last with ⟨idle, split⟩
    have taken : take p s =
        (i, s.setPool p { s.pool p with idle := (s.pool p).idle.dropLast }) := by
      simp only [take, bind, StateT.bind, get, getThe, MonadStateOf.get, StateT.get, pure, last]
      rfl
    refine .inl ⟨idle, i, split, ?_⟩
    rw [taken, split, List.dropLast_concat]

theorem Store.mem_parked_of_idle {p i k : Nat} {idle : List Nat}
    (split : (s.pool p).idle = idle ++ [i]) (mem : k ∈ idle ++ [i]) :
    p < s.pools.length ∧ k ∈ s.parked :=
  Store.mem_parked (split ▸ mem)

/-- What is taken was parked, and so is as good as new, or is made. -/
theorem Tidy.take_asNew (tidy : Tidy s outside) (p : Nat) :
    (Pool.take p s).2.object (Pool.take p s).1 = .asNew := by
  rcases take_cases p s with ⟨idle, i, split, eq⟩ | ⟨_, eq⟩
  · have last : i ∈ idle ++ [i] := List.mem_append_right _ (List.mem_singleton_self i)
    rw [eq]
    exact tidy.idle i (Store.mem_parked_of_idle split last).2
  · rw [eq]
    exact create_asNew s

/-- The reference of the pool becomes that of a handle. -/
theorem Tidy.take (tidy : Tidy s outside) (p : Nat) {h : Handle}
    (on : h.object = (Pool.take p s).1) : Tidy (Pool.take p s).2 (h :: outside) := by
  rcases take_cases p s with ⟨idle, i, split, eq⟩ | ⟨_, eq⟩
  · rw [eq] at on ⊢
    have on' : h.object = i := on
    have last : i ∈ idle ++ [i] := List.mem_append_right _ (List.mem_singleton_self i)
    refine tidy.setPool (Store.mem_parked_of_idle split last).1 ?_ ?_
    · intro k
      rw [count_cons_object, on', split, count_concat]
      show _ + idle.count k = _
      omega
    · intro k mem
      exact tidy.idle k (Store.mem_parked_of_idle split (List.mem_append_left _ mem)).2
  · rw [eq] at on ⊢
    exact tidy.create on

/-- What is taken from a pool, or made, may be handed out. -/
theorem Sound.take (sound : Sound s outside) (p : Nat) :
    Lends s outside (take p s).1 (take p s).2 := by
  have asNew := sound.tidy.take_asNew p
  have tidy {h : Handle} := @Tidy.take s outside sound.tidy p h
  -- taken out of the pool, or made
  rcases take_cases p s with ⟨idle, i, split, eq⟩ | ⟨_, eq⟩
  · rw [eq] at asNew tidy ⊢
    refine ⟨asNew, fun _ _ => rfl, rfl, ?_⟩
    intro h on
    refine sound.setPool (tidy on) ?_ ?_
    · intro h' mem plain
      rcases List.mem_cons.1 mem with rfl | mem
      · rw [on]
        exact congrArg Object.references asNew
      · exact sound.exclusive h' (List.mem_append_left _ mem) plain
    · have last : i ∈ idle ++ [i] := List.mem_append_right _ (List.mem_singleton_self i)
      have lt := (Store.mem_parked_of_idle split last).1
      have room := sound.room (s.pool p) (List.mem_of_getElem? (Store.pool_eq lt))
      rw [split, List.length_append] at room
      exact Nat.le_of_succ_le room
  · rw [eq]
    exact sound.create

/-- Take an object to which nothing else refers, to fill it. -/
def openNode (p : Nat) : Lending Nat := do
  let parked ← take p
  let i ←
    if ((← get).object parked).references = 1 then pure parked
    else do
      let fresh ← create
      drop (.plain parked)
      pure fresh
  modify (·.note (.filled i))
  return i

/-- An object is shared in three steps: it is taken, filled and then handed out. -/
theorem share_eq (p : Nat) (fill : List Int → List Int) (s : Store) :
    share p fill s = ((.shared p (openNode p s).1, ((openNode p s).2.object (openNode p s).1).data),
      (openNode p s).2.update (openNode p s).1 fill) := by
  have opened : openNode p s = (if ((take p s).2.object (take p s).1).references = 1
    then (_ : Lending _) else _) (take p s).2 := rfl
  show (if ((take p s).2.object (take p s).1).references = 1 then (_ : Lending _) else _)
    (take p s).2 = _
  rw [opened]
  split
  · rfl
  · rfl

/-- What is taken from a pool is not referred to by others, so that it is always filled itself. -/
theorem openNode_eq (tidy : Tidy s outside) (p : Nat) :
    openNode p s = ((take p s).1, (take p s).2.note (.filled (take p s).1)) := by
  have one : ((take p s).2.object (take p s).1).references = 1 := by
    rw [tidy.take_asNew, Object.references_asNew]
  show (if ((take p s).2.object (take p s).1).references = 1 then (_ : Lending _) else _)
    (take p s).2 = _
  rw [if_pos one]
  rfl

theorem Tidy.openNode_asNew (tidy : Tidy s outside) (p : Nat) :
    (openNode p s).2.object (openNode p s).1 = .asNew := by
  rw [openNode_eq tidy p]
  exact tidy.take_asNew p

/-- The object to be filled is referred to by who fills it. -/
theorem Tidy.openNode (tidy : Tidy s outside) (p : Nat) {h : Handle}
    (on : h.object = (Pool.openNode p s).1) : Tidy (Pool.openNode p s).2 (h :: outside) := by
  rw [openNode_eq tidy p] at on ⊢
  exact (tidy.take p on).note _

/-- The object to be filled may be handed out. -/
theorem Sound.openNode (sound : Sound s outside) (p : Nat) :
    Lends s outside (openNode p s).1 (openNode p s).2 := by
  rw [openNode_eq sound.tidy p]
  exact (sound.take p).note _

/-! ## Objects that have an owner -/

/-- Through a handle that is not shared, data is changed. -/
theorem change_eq {h : Handle} (plain : h.isShared = false) (f : List Int → List Int) (s : Store) :
    (change h f s).2 = s.update h.object f := by
  cases h with
  | pooled p i => rfl
  | shared p i => cases plain
  | plain i => rfl

theorem Store.update_eq {i : Nat} (one : (s.object i).references = 1) (f : List Int → List Int) :
    s.update i f = s.setObject i { s.object i with data := f (s.object i).data } := by
  rw [Store.update, if_pos one]

/-- Through the only handle on an object, handles are moved into it and out of it, and its data is
changed. -/
theorem Tidy.rearrange (tidy : Tidy s outside) {h : Handle} (mem : h ∈ outside)
    (was : (s.object h.object).references = 1) {o : Object} (one : o.references = 1)
    (moved : (outside' ++ o.nested).Perm (outside ++ (s.object h.object).nested)) :
    Tidy (s.setObject h.object o) outside' := by
  have mem' := List.mem_append_left s.nestedHandles mem
  refine tidy.setObject (tidy.lt_length mem') ?_ (tidy.not_parked mem')
  intro k
  have count := (moved.map (·.object)).count_eq k
  rw [count_append_object, count_append_object] at count
  rw [one, was, count]

/-- The owner of an object moves handles into it and out of it, and changes its data. -/
theorem Sound.rearrange (sound : Sound s outside) {h : Handle} (mem : h ∈ outside)
    (plain : h.isShared = false) {o : Object} (one : o.references = 1)
    (moved : (outside' ++ o.nested).Perm (outside ++ (s.object h.object).nested)) :
    Sound (s.setObject h.object o) outside' := by
  have was := sound.exclusive h (List.mem_append_left _ mem) plain
  refine sound.setObject (sound.tidy.lt_length (List.mem_append_left _ mem))
    (sound.tidy.rearrange mem was one moved) ?_ (.inl one)
  intro h' mem' _
  rcases List.mem_append.1 (moved.mem_iff.1 mem') with out | nested
  · exact List.mem_append_left _ out
  · exact List.mem_append_right _ (Store.mem_nestedHandles nested)

/-! ## What is shared -/

/-- What is shared has been found empty, and has exactly what its fill makes of that. -/
theorem Tidy.shares (tidy : Tidy s outside) (p : Nat) (fill : List Int → List Int) :
    (share p fill s).1.2 = [] ∧ (share p fill s).2.object (share p fill s).1.1.object
      = { data := fill [], references := 1 } := by
  have asNew := tidy.openNode_asNew p
  have one : ((Pool.openNode p s).2.object (Pool.openNode p s).1).references = 1 := by
    rw [asNew, Object.references_asNew]
  rw [share_eq, Store.update_eq one, asNew]
  refine ⟨rfl, ?_⟩
  rw [Handle.object_shared, Store.object_setObject (Store.lt_of_references (one ▸ Nat.one_pos)),
    if_pos rfl]
  rfl

/-- A shared handle is on an object that is neither parked nor owned. -/
theorem Sound.shared (sound : Sound s outside) {h : Handle} (mem : h ∈ outside ++ s.nestedHandles)
    (shared : h.isShared) :
    (∀ h' ∈ outside ++ s.nestedHandles, h'.isShared = false → h'.object ≠ h.object) ∧
      h.object ∉ s.parked := by
  refine ⟨?_, sound.tidy.not_parked mem⟩
  have counted := sound.counted h.object
  rw [Store.holders, ← count_append_object] at counted
  intro h' mem' plain same
  have one := sound.exclusive h' mem' plain
  have ne : h ≠ h' := by
    rintro rfl
    rw [plain] at shared
    cases shared
  -- the shared handle and the exclusive one would be two
  have two := two_le_count mem mem' ne same.symm
  rw [same] at one
  omega

/-- There is one more handle on an object. -/
theorem Tidy.retain (tidy : Tidy s outside) {h h' : Handle} (mem : h ∈ outside ++ s.nestedHandles)
    (on : h'.object = h.object) : Tidy (Pool.retain h s).2 (h' :: outside) := by
  refine tidy.setObject (tidy.lt_length mem) ?_ (tidy.not_parked mem)
  intro k
  rw [count_cons_object, on]
  -- the reference and the handle are counted on this object alone
  by_cases same : k = h.object
  · simp only [if_pos same]
    omega
  · simp only [if_neg same]
    omega

/-- A further shared handle takes nothing from an owner, since the object has none. -/
theorem Sound.clone (sound : Sound s outside) {h : Handle} (mem : h ∈ outside ++ s.nestedHandles)
    (shared : h.isShared) : Sound (Pool.clone h s).2 (h :: outside) := by
  have apart := sound.shared mem shared
  have same : ∀ h' ∈ h :: outside ++ (Pool.clone h s).2.nestedHandles, h'.isShared = false →
      h' ∈ outside ++ s.nestedHandles := by
    intro h' mem' plain
    rcases List.mem_append.1 mem' with out | nested
    · rcases List.mem_cons.1 out with rfl | out
      · exact mem
      · exact List.mem_append_left _ out
    · exact List.mem_append_right _ (Store.nested_of_setObject nested rfl)
  -- the object itself has no exclusive handle
  refine sound.setObject (sound.tidy.lt_length mem) (sound.tidy.retain mem rfl) ?_ (.inr ?_)
  · intro h' mem' plain
    rcases List.mem_append.1 mem' with out | nested
    · exact same h' (List.mem_append_left _ out) plain
    · exact List.mem_append_right _ (Store.mem_nestedHandles nested)
  · intro h' mem' plain
    exact apart.1 h' (same h' mem' plain) plain

/-! ## Limits -/

/-- What is parked beyond a new limit is referred to by what drops it. -/
theorem Tidy.limit (tidy : Tidy s outside) (p limit : Nat) :
    Tidy (s.setPool p ⟨(s.pool p).idle.take limit, limit⟩)
      (((s.pool p).idle.drop limit).map .plain ++ outside) := by
  by_cases lt : p < s.pools.length
  · refine tidy.setPool lt ?_ ?_
    · intro k
      -- what is parked is what stays and what goes beyond the limit
      have parts := congrArg (List.count k) (List.take_append_drop limit (s.pool p).idle)
      rw [List.count_append] at parts
      rw [count_append_object, List.map_map]
      have surplus : ((s.pool p).idle.drop limit).map ((·.object) ∘ Handle.plain)
          = (s.pool p).idle.drop limit := List.map_id _
      rw [surplus]
      show _ + ((s.pool p).idle.take limit).count k = _
      omega
    · intro i mem
      exact tidy.idle i (Store.mem_parked (List.mem_of_mem_take mem)).2
  · -- there is no such pool, and nothing is parked in it
    have le := Nat.le_of_not_lt lt
    have same : s.setPool p ⟨(s.pool p).idle.take limit, limit⟩ = s := by
      rw [Store.setPool, List.set_eq_of_length_le le]
    rw [same, Store.pool_of_le le, List.drop_nil]
    exact tidy

theorem drop_surplus (surplus : List Nat) :
    surplus.map (fun i => Task.drop (.plain i)) = (surplus.map .plain).map .drop := by
  rw [List.map_map]
  rfl

/-- What is parked beyond a new limit may be dropped. -/
theorem Sound.limit (sound : Sound s outside) (p limit : Nat) :
    Due (s.setPool p ⟨(s.pool p).idle.take limit, limit⟩)
      (((s.pool p).idle.drop limit).map fun i => .drop (.plain i)) outside := by
  rw [drop_surplus]
  apply Sound.due
  refine sound.setPool (sound.tidy.limit p limit) ?_ (List.length_take_le _ _)
  intro h mem plain
  rcases List.mem_append.1 mem with surplus | out
  · rcases List.mem_map.1 surplus with ⟨i, beyond, rfl⟩
    exact sound.tidy.references_of_parked (Store.mem_parked (List.mem_of_mem_drop beyond)).2
  · exact sound.exclusive h (List.mem_append_left _ out) plain

end SqlCompose.Pool
