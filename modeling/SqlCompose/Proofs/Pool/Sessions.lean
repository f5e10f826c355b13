import SqlCompose.Proofs.Pool.Contents

/-! # Sessions

A session is a run of actions on pools by holders of handles.  They borrow objects, change them,
move handles into and out of those that they own, take them out of the care of their pool, share
them, and let go of them, in any order; other actions may come between those that fill an object
which is about to be shared.  Further references that no pool knows of are not made here.

One step keeps the store sound and faithful (`kept_step`), so that a whole run does (`kept_run`).

Main statement: `pools_stay_safe`, what pools promise, at the end of any session.
-/

namespace SqlCompose.Pool

/-- A store and those who hold handles on its objects, with what they wrote. -/
structure Session where
  store : Store
  /-- The handles that no object holds. -/
  held : List Handle := []
  /-- Objects that are being filled, with the pool that will share them. -/
  filling : List (Nat × Nat) := []
  /-- What was written into an object since it was last handed out. -/
  written : Nat → Content := fun _ => {}
  /-- What was written into an object by the end of its last fill. -/
  filled : Nat → Content := fun _ => {}

inductive Action where
  | acquire (pool : Nat)
  | change (h : Handle) (f : List Int → List Int)
  | nest (h child : Handle)
  /-- Leave an object with these handles, and its owner with those.  What an object holds is changed
  by taking it out and putting it back. -/
  | move (h : Handle) (nested held : List Handle)
  | drop (h : Handle)
  | detach (pool object : Nat)
  | share (pool : Nat) (fill : List Int → List Int)
  | beginShare (pool : Nat)
  | endShare (pool object : Nat)
  | clone (h : Handle)
  | setMaxIdle (pool limit : Nat)

namespace Session

/-- Whoever fills an object refers to it. -/
def fillers (s : Session) : List Handle :=
  s.filling.map fun n => .plain n.2

/-- The handles outside of the store. -/
def outside (s : Session) : List Handle :=
  s.held ++ s.fillers

def live (s : Session) : List Handle :=
  s.outside ++ s.store.nestedHandles

/-- Whether the handle is outside of the store, and nobody shares its object. -/
def Owns (s : Session) (h : Handle) : Prop :=
  h ∈ s.outside ∧ h.isShared = false

instance (s : Session) (h : Handle) : Decidable (s.Owns h) :=
  inferInstanceAs (Decidable (_ ∧ _))

/-- An action, and what is written by it.  One that cannot be done leaves everything as it was. -/
def step (s : Session) : Action → Session
  | .acquire p =>
    let (h, store) := acquire p s.store
    { s with
      store := store
      held := h :: s.held
      written := Function.update s.written h.object {} }
  | .change h f =>
    if s.Owns h then
      let c := s.written h.object
      { s with
        store := (change h f s.store).2
        written := Function.update s.written h.object { c with data := f c.data } }
    else s
  | .nest h child =>
    if s.Owns h ∧ child ∈ s.held ∧ child ≠ h then
      let c := s.written h.object
      { s with
        store := (nest h child s.store).2
        held := s.held.erase child
        written := Function.update s.written h.object
          { c with nested := c.nested ++ [s.written child.object] } }
    else s
  | .move h nested held =>
    let o := s.store.object h.object
    if s.Owns h ∧ h ∉ nested ∧ (nested ++ held).Perm (o.nested ++ s.held) then
      let c := s.written h.object
      { s with
        store := s.store.setObject h.object { o with nested := nested }
        held := held
        written := Function.update s.written h.object
          { c with nested := nested.map fun child => s.written child.object } }
    else s
  | .drop h =>
    if h ∈ s.held then { s with store := (drop h s.store).2, held := s.held.erase h } else s
  | .detach p i =>
    if .pooled p i ∈ s.held then
      { s with held := detach (.pooled p i) :: s.held.erase (.pooled p i) }
    else s
  | .share p fill =>
    let ((h, _), store) := share p fill s.store
    { s with
      store := store
      held := h :: s.held
      written := Function.update s.written h.object { data := fill [] }
      filled := Function.update s.filled h.object { data := fill [] } }
  | .beginShare p =>
    let (i, store) := openNode p s.store
    { s with
      store := store
      filling := (p, i) :: s.filling
      written := Function.update s.written i {} }
  | .endShare p i =>
    if (p, i) ∈ s.filling then
      { s with
        held := .shared p i :: s.held
        filling := s.filling.erase (p, i)
        filled := Function.update s.filled i (s.written i) }
    else s
  | .clone h =>
    if h ∈ s.live ∧ h.isShared then
      { s with store := (clone h s.store).2, held := h :: s.held }
    else s
  | .setMaxIdle p limit => { s with store := (setMaxIdle p limit s.store).2 }

/-- All actions in turn, on pools that are empty at first. -/
def run (limits : List Nat) (actions : List Action) : Session :=
  actions.foldl step { store := .withLimits limits }

/-! ## Every step keeps what was written -/

/-- The store is sound for the handles of the session, and has what was written through them. -/
def Kept (s : Session) : Prop :=
  Tracked s.store s.outside s.written s.filled

variable {s : Session}

/-- An owner finds what he wrote. -/
theorem Kept.written_eq (kept : s.Kept) {h : Handle} (owns : s.Owns h) :
    s.written h.object = (s.store.object h.object).content s.written :=
  kept.faithful h (List.mem_append_left _ owns.1)

/-- An owner has the only reference. -/
theorem Kept.references_eq (kept : s.Kept) {h : Handle} (owns : s.Owns h) :
    (s.store.object h.object).references = 1 :=
  kept.sound.exclusive h (List.mem_append_left _ owns.1) owns.2

/-- No object holds its own owner. -/
theorem Kept.not_nested (kept : s.Kept) {h : Handle} (owns : s.Owns h) :
    h ∉ (s.store.object h.object).nested := by
  intro nested
  have inside := List.mem_append_right (s.outside.erase h) (Store.mem_nestedHandles nested)
  exact (kept.sound.owner owns.1 owns.2).1 h inside rfl

theorem outside_perm {h : Handle} (mem : h ∈ s.held) :
    s.outside.Perm (h :: (s.held.erase h ++ s.fillers)) :=
  (List.perm_cons_erase mem).append_right _

/-- A held handle is nested in an object that has an owner. -/
theorem nest_perm {child : Handle} (mem : child ∈ s.held) (nested : List Handle) :
    (s.held.erase child ++ s.fillers ++ (nested ++ [child])).Perm (s.outside ++ nested) := by
  rw [← List.append_assoc]
  exact (List.perm_append_singleton _ _).trans ((outside_perm mem).symm.append_right _)

/-- Handles that are held give place to others, which an object held. -/
theorem move_perm {held inner nested : List Handle}
    (perm : (inner ++ held).Perm (nested ++ s.held)) :
    (held ++ s.fillers ++ inner).Perm (s.outside ++ nested) := by
  calc (held ++ s.fillers ++ inner).Perm (inner ++ (held ++ s.fillers)) := List.perm_append_comm
    _ = inner ++ held ++ s.fillers := (List.append_assoc _ _ _).symm
    List.Perm _ (nested ++ s.held ++ s.fillers) := perm.append_right _
    _ = nested ++ s.outside := List.append_assoc _ _ _
    List.Perm _ (s.outside ++ nested) := List.perm_append_comm

/-- Who fills an object refers to it by a handle of his own. -/
theorem filler_perm {p i : Nat} (mem : (p, i) ∈ s.filling) :
    s.outside.Perm
      (.plain i :: (s.held ++ (s.filling.erase (p, i)).map fun n => Handle.plain n.2)) := by
  have others := (List.perm_cons_erase mem).map fun n => Handle.plain n.2
  exact (others.append_left s.held).trans List.perm_middle

/-- Nothing has been written into what is borrowed. -/
theorem kept_acquire (kept : s.Kept) (p : Nat) : (s.step (.acquire p)).Kept :=
  kept.lend (kept.sound.take p) rfl rfl

/-- What an owner changes is what is written then. -/
theorem kept_change (kept : s.Kept) (h : Handle) (f : List Int → List Int) :
    (s.step (.change h f)).Kept := by
  rw [step]
  split
  · next owns =>
    have one := kept.references_eq owns
    let o := s.store.object h.object
    -- the owner writes over what he had written
    have write : Tracked (s.store.setObject h.object { o with data := f o.data }) s.outside _ _ :=
      kept.own owns.1 owns.2 one (kept.not_nested owns) (List.Perm.refl _)
    rw [Kept, change_eq owns.2, Store.update_eq one, kept.written_eq owns]
    exact write
  · exact kept

/-- Into the content of the owner goes that of the nested object. -/
theorem kept_nest (kept : s.Kept) (h child : Handle) : (s.step (.nest h child)).Kept := by
  rw [step]
  split
  · next can =>
    rcases can with ⟨owns, held, ne⟩
    let o := s.store.object h.object
    -- an object does not come to hold its own owner
    have apart : h ∉ o.nested ++ [child] := by
      intro mem
      rcases List.mem_append.1 mem with nested | last
      · exact kept.not_nested owns nested
      · exact ne (List.mem_singleton.1 last).symm
    let o' : Object := { o with nested := o.nested ++ [child] }
    have write : Tracked (s.store.setObject h.object o') _ _ _ :=
      kept.own owns.1 owns.2 (kept.references_eq owns) apart (nest_perm held o.nested)
    rw [Object.content, List.map_append] at write
    rw [Kept, kept.written_eq owns]
    exact write
  · exact kept

/-- The content of an object is that of the handles that it holds now. -/
theorem kept_move (kept : s.Kept) (h : Handle) (nested held : List Handle) :
    (s.step (.move h nested held)).Kept := by
  rw [step]
  split
  · next can =>
    rcases can with ⟨owns, apart, perm⟩
    let o := s.store.object h.object
    have write : Tracked (s.store.setObject h.object { o with nested := nested }) _ _ _ :=
      kept.own owns.1 owns.2 (kept.references_eq owns) apart (move_perm perm)
    rw [Kept, kept.written_eq owns]
    exact write
  · exact kept

/-- Dropping a handle, with all that it leads to, leaves what the others show. -/
theorem kept_drop (kept : s.Kept) (h : Handle) : (s.step (.drop h)).Kept := by
  rw [step]
  split
  · next held => exact (kept.perm (outside_perm held)).drop
  · exact kept

/-- A detached object is as it was written. -/
theorem kept_detach (kept : s.Kept) (p i : Nat) : (s.step (.detach p i)).Kept := by
  rw [step]
  split
  · next held =>
    have alone := kept.perm (outside_perm held)
    exact alone.exchange rfl (fun _ => rfl) (fun shared => by cases shared)
  · exact kept

/-- Who fills an object finds nothing in it. -/
theorem kept_beginShare (kept : s.Kept) (p : Nat) : (s.step (.beginShare p)).Kept := by
  have lent := kept.lend (kept.sound.openNode p) (h := .plain (openNode p s.store).1) rfl rfl
  exact lent.perm List.perm_middle.symm

/-- What has been written is shared as the fill left it. -/
theorem kept_endShare (kept : s.Kept) (p i : Nat) : (s.step (.endShare p i)).Kept := by
  rw [step]
  split
  · next filling => exact (kept.perm (filler_perm filling)).finish
  · exact kept

/-- Both handles show the same. -/
theorem kept_clone (kept : s.Kept) (h : Handle) : (s.step (.clone h)).Kept := by
  rw [step]
  split
  · next can => exact kept.clone can.1 can.2
  · exact kept

theorem kept_setMaxIdle (kept : s.Kept) (p limit : Nat) : (s.step (.setMaxIdle p limit)).Kept :=
  kept.setMaxIdle p limit

/-- To share an object is to begin it, to write to the object and to end it. -/
theorem step_share (s : Session) (p : Nat) (fill : List Int → List Int) :
    s.step (.share p fill) = ((s.step (.beginShare p)).step
      (.change (.plain (openNode p s.store).1) fill)).step
        (.endShare p (openNode p s.store).1) := by
  -- the node is the same in all three steps
  generalize opened : openNode p s.store = node
  rcases node with ⟨i, store⟩
  have begun : s.step (.beginShare p) = { s with
      store := store
      filling := (p, i) :: s.filling
      written := Function.update s.written i {} } := by
    rw [step, opened]
  have owns : (s.step (.beginShare p)).Owns (.plain i) := by
    rw [begun]
    exact ⟨List.mem_append_right _ List.mem_cons_self, rfl⟩
  have changed : (s.step (.beginShare p)).step (.change (.plain i) fill) = { s with
      store := store.update i fill
      filling := (p, i) :: s.filling
      written := Function.update s.written i { data := fill [] } } := by
    rw [step, if_pos owns, begun]
    simp only [Handle.object_plain, Function.update_self, Function.update_idem]
    rfl
  rw [changed, step, step, share_eq, opened, if_pos List.mem_cons_self]
  simp only [Handle.object_shared, Function.update_self, List.erase_cons_head]

/-- Every action keeps the store sound and what was written. -/
theorem kept_step (kept : s.Kept) (a : Action) : (s.step a).Kept := by
  cases a with
  | acquire p => exact kept_acquire kept p
  | change h f => exact kept_change kept h f
  | nest h child => exact kept_nest kept h child
  | move h nested held => exact kept_move kept h nested held
  | drop h => exact kept_drop kept h
  | detach p i => exact kept_detach kept p i
  | share p fill =>
    rw [step_share]
    exact kept_endShare (kept_change (kept_beginShare kept p) _ _) _ _
  | beginShare p => exact kept_beginShare kept p
  | endShare p i => exact kept_endShare kept p i
  | clone h => exact kept_clone kept h
  | setMaxIdle p limit => exact kept_setMaxIdle kept p limit

/-- At the start nothing is parked and nobody holds a handle. -/
theorem kept_start (limits : List Nat) : Kept { store := .withLimits limits } := by
  have parked : (Store.withLimits limits).parked = [] := by
    rw [Store.parked, Store.withLimits, List.flatMap_map]
    exact List.flatMap_eq_nil_iff.2 fun _ _ => rfl
  -- there is no handle about which anything would have to be shown
  have nobody (h : Handle) :
      h ∉ ([] ++ [] : List Handle) ++ (Store.withLimits limits).nestedHandles := by
    intro mem
    cases mem
  constructor
  · constructor
    · intro i
      rw [Store.holders, parked]
      rfl
    · intro h mem
      exact absurd mem (nobody h)
    · intro i mem
      rw [parked] at mem
      cases mem
    · intro f mem
      rcases List.mem_map.1 mem with ⟨n, _, rfl⟩
      exact Nat.zero_le n
  · intro h mem
    exact absurd mem (nobody h)
  · intro h mem
    exact absurd mem (nobody h)

/-- Every run keeps the store sound and what was written. -/
theorem kept_run (limits : List Nat) (actions : List Action) : (run limits actions).Kept := by
  have steps : ∀ s : Session, s.Kept → (actions.foldl step s).Kept := by
    induction actions with
    | nil => exact fun s kept => kept
    | cons a rest ih => exact fun s kept => ih (s.step a) (kept_step kept a)
  exact steps _ (kept_start limits)

/-! ## What pools promise -/

/-- What holders of handles can rely on between any two actions. -/
structure Safe (s : Session) : Prop where
  /-- What is parked is as good as new, -/
  clean : ∀ i ∈ s.store.parked, s.store.object i = .asNew
  /-- and it is parked once, -/
  once : s.store.parked.Nodup
  /-- with no handle on it. -/
  apart : ∀ h ∈ s.live, h.object ∉ s.store.parked
  /-- A handle that is not shared is the only one on its object. -/
  alone : ∀ h ∈ s.live, h.isShared = false → (s.live.map (·.object)).count h.object = 1
  /-- No pool is over its limit. -/
  room : ∀ p, (s.store.pool p).idle.length ≤ (s.store.pool p).maxIdle
  /-- What is borrowed next is as good as new, and nobody else's; -/
  acquired : ∀ p, (acquire p s.store).2.object (acquire p s.store).1.object = .asNew ∧
    ∀ h ∈ s.live, h.object ≠ (acquire p s.store).1.object
  /-- so is what is filled next, -/
  opened : ∀ p, (openNode p s.store).2.object (openNode p s.store).1 = .asNew ∧
    ∀ h ∈ s.live, h.object ≠ (openNode p s.store).1
  /-- and what is shared next has what its fill makes of nothing. -/
  shared : ∀ p fill, (share p fill s.store).1.2 = [] ∧
    (share p fill s.store).2.object (share p fill s.store).1.1.object
      = { data := fill [], references := 1 }
  /-- Whatever a handle is on, and all that is reached from there, is as it was written. -/
  shown : ∀ h ∈ s.live, s.store.Shows h.object (s.written h.object)
  /-- What is shared is as it was written by its fill, -/
  finished : ∀ h ∈ s.live, h.isShared → s.store.Shows h.object (s.filled h.object)
  /-- and no action fills it again. -/
  lasting : ∀ h ∈ s.live, h.isShared → ∀ a, (s.step a).filled h.object = s.filled h.object

theorem Kept.holders_eq (kept : s.Kept) (i : Nat) : (s.live.map (·.object)).count i
    + s.store.parked.count i = (s.store.object i).references := by
  rw [kept.sound.counted, Store.holders, live, count_append_object]

/-- An object parked twice would have two references. -/
theorem Kept.once (kept : s.Kept) : s.store.parked.Nodup := by
  rw [List.nodup_iff_count]
  intro i
  by_cases mem : i ∈ s.store.parked
  · have counted := kept.holders_eq i
    have one := kept.sound.tidy.references_of_parked mem
    omega
  · rw [List.count_eq_zero_of_not_mem mem]
    exact Nat.zero_le 1

/-- A handle on a parked object would be one reference too many. -/
theorem Kept.apart (kept : s.Kept) {h : Handle} (mem : h ∈ s.live) :
    h.object ∉ s.store.parked :=
  kept.sound.tidy.not_parked mem

/-- Two handles on an object of which one is exclusive would be two references. -/
theorem Kept.alone (kept : s.Kept) {h : Handle} (mem : h ∈ s.live) (plain : h.isShared = false) :
    (s.live.map (·.object)).count h.object = 1 := by
  have counted := kept.holders_eq h.object
  rw [kept.sound.exclusive h mem plain] at counted
  have handles := count_pos_of_mem mem
  omega

/-- A pool that does not exist is not over its limit either. -/
theorem Kept.room (kept : s.Kept) (p : Nat) :
    (s.store.pool p).idle.length ≤ (s.store.pool p).maxIdle := by
  by_cases lt : p < s.store.pools.length
  · exact kept.sound.room _ (List.mem_of_getElem? (Store.pool_eq lt))
  · rw [Store.pool_of_le (Nat.le_of_not_lt lt)]
    exact Nat.le_refl 0

/-- While a handle is on what is shared, its fill is not forgotten: only what no handle is on is
filled. -/
theorem Kept.lasting (kept : s.Kept) {h : Handle} (mem : h ∈ s.live) (shared : h.isShared)
    (a : Action) : (s.step a).filled h.object = s.filled h.object := by
  cases a with
  | share p fill =>
    have free := (kept.sound.openNode p).free h mem
    rw [step, share_eq]
    exact Function.update_of_ne free _ _
  | endShare p i =>
    rw [step]
    split
    · next filling =>
      -- who fills an object owns it, so that it is not the one of a shared handle
      have outside : .plain i ∈ s.outside :=
        List.mem_append_right _ (List.mem_map_of_mem filling)
      have other := (kept.sound.shared mem shared).1 (.plain i) (List.mem_append_left _ outside) rfl
      exact Function.update_of_ne (Ne.symm other) _ _
    · rfl
  | acquire p => rfl
  | beginShare p => rfl
  | setMaxIdle p limit => rfl
  | change h' f => rw [step]; split <;> rfl
  | nest h' child => rw [step]; split <;> rfl
  | move h' nested held => rw [step]; split <;> rfl
  | drop h' => rw [step]; split <;> rfl
  | detach p i => rw [step]; split <;> rfl
  | clone h' => rw [step]; split <;> rfl

/-- However objects are borrowed, changed, moved, shared and let go of: what is parked is as good as
new and out of reach, what is handed out is as good as new and nobody else's, and what is seen
through a handle is what was written, for shared ones what their fill wrote. -/
theorem pools_stay_safe (limits : List Nat) (actions : List Action) :
    (run limits actions).Safe := by
  have kept := kept_run limits actions
  constructor
  · exact kept.sound.idle
  · exact kept.once
  · exact fun h mem => kept.apart mem
  · exact fun h mem => kept.alone mem
  · exact kept.room
  · intro p
    have lends := kept.sound.take p
    exact ⟨lends.asNew, lends.free⟩
  · intro p
    have lends := kept.sound.openNode p
    exact ⟨lends.asNew, lends.free⟩
  · exact kept.sound.tidy.shares
  · exact fun h mem => kept.faithful.shows mem
  · intro h mem shared
    rw [← kept.finished h mem shared]
    exact kept.faithful.shows mem
  · exact fun h mem shared a => kept.lasting mem shared a

-- A borrowed object is nested in another while that one is being filled.
example : (run [1, 1] [.acquire 0, .change (.pooled 0 0) (7 :: ·), .beginShare 1,
    .nest (.plain 1) (.pooled 0 0), .endShare 1 1, .clone (.shared 1 1)]).live
      = [.shared 1 1, .shared 1 1, .pooled 0 0] := by
  decide

end Session

end SqlCompose.Pool
