import Mathlib.Data.Finset.Card
import SqlCompose.Proofs.Record.RoundTrip

/-! # Histories of caches

Record types are resolved in caches, and caches are cleared, in any order.  A cache then keeps the
columns of the record types that were resolved in it since it was last cleared, once each, and these
are the columns that the types have, as long as every key stands for one type.

A lookup that finds nothing computes the columns before it takes the cache to keep them, and leaves
what another one has put there by then.  So what it does and what it gives is what a resolution does
and gives at the moment when the columns are kept: lookups at the same time have a history as well.

Main statements:

* `ColumnCaches.Sound.after`: no history makes a cache know wrong columns;
* `ColumnCaches.find?_after`: what a cache keeps stays until it is cleared;
* `ColumnCaches.keeps_after`: what a cache keeps after a history.
-/

namespace SqlCompose

/-- A column is named by the tag that is there and not empty, else by the identifier. -/
theorem Field.columnName_eq (f : Field) :
    f.columnName = (f.tag.filter (· ≠ "")).getD f.ident := by
  rcases f with ⟨ident, _ | tag⟩
  · rfl
  · by_cases empty : tag = ""
    · simp [columnName, Option.filter, empty]
    · simp [columnName, Option.filter, empty]

/-- Something that happens to a cache. -/
inductive CacheEvent where
  | resolve (ref : CacheRef) (t : RecordType)
  | clear (ref : CacheRef)

namespace CacheEvent

def ref : CacheEvent → CacheRef
  | resolve ref _ => ref
  | clear ref => ref

/-- If a record type is resolved, it is one of these. -/
def In (types : Set RecordType) : CacheEvent → Prop
  | resolve _ t => t ∈ types
  | clear _ => True

/-- The record types resolved since the cache was last cleared, the latest first, from those that
were before. -/
def found (before : List RecordType) : CacheEvent → List RecordType
  | resolve _ t => t :: before
  | clear _ => []

end CacheEvent

/-! ## One cache -/

namespace ColumnCache

/-- The cache after something has happened to it. -/
def next (c : ColumnCache) : CacheEvent → ColumnCache
  | .resolve _ t => (c.resolve t).2
  | .clear _ => {}

variable {c : ColumnCache} {types : Set RecordType}

/-- A cache that knows the columns of a type still knows them after an event. -/
theorem Knows.next {t : RecordType} (knows : c.Knows t) (keys : Set.InjOn RecordType.key types)
    (member : t ∈ types) {e : CacheEvent} (among : e.In types) : (c.next e).Knows t := by
  cases e with
  | resolve r u => exact knows.resolve fun sameKey => keys among member sameKey
  | clear r => exact knows_empty t

/-- What is kept stays, unless the cache is cleared. -/
theorem find?_next {key : String} {columns : List String} (kept : c.find? key = some columns)
    {e : CacheEvent} (uncleared : ∀ r, e ≠ .clear r) : (c.next e).find? key = some columns := by
  cases e with
  | clear r => exact absurd rfl (uncleared r)
  | resolve r t =>
    show (c.resolve t).2.find? key = some columns
    unfold resolve
    cases found : c.find? t.key with
    | some _ => exact kept
    | none =>
      -- the new entry is kept under another key, or something would have been found
      have other : t.key ≠ key := by
        rintro rfl
        rw [kept] at found
        cases found
      show (List.find? (·.1 == key) ((t.key, t.columns) :: c.entries)).map (·.2) = some columns
      rw [List.find?_cons_of_neg (by simpa using other)]
      exact kept

/-- The cache keeps the columns of these record types, and of no others. -/
def Keeps (c : ColumnCache) (kept : List RecordType) : Prop :=
  c.entries = kept.map fun t => (t.key, t.columns)

/-- Where keys are distinct, there is nothing under the key of a type exactly if the type is not
kept. -/
theorem Keeps.find?_eq_none_iff {kept : List RecordType} (keeps : c.Keeps kept)
    (keys : Set.InjOn RecordType.key types) (known : ∀ t ∈ kept, t ∈ types) {t : RecordType}
    (member : t ∈ types) : c.find? t.key = none ↔ t ∉ kept := by
  rw [find?, Option.map_eq_none_iff, List.find?_eq_none, keeps, List.forall_mem_map]
  constructor
  · intro missing own
    exact missing t own (beq_self_eq_true _)
  · intro missing u own sameKey
    have same : u = t := keys (known u own) member (beq_iff_eq.1 sameKey)
    exact missing (same ▸ own)

/-- To resolve a record type puts it with those that are kept, unless it is one of them. -/
theorem Keeps.resolve {found : List RecordType} (keeps : c.Keeps found.dedup)
    (keys : Set.InjOn RecordType.key types) (known : ∀ t ∈ found, t ∈ types) {t : RecordType}
    (member : t ∈ types) : (c.resolve t).2.Keeps (t :: found).dedup := by
  have knownOnce : ∀ u ∈ found.dedup, u ∈ types := fun u once => known u (List.mem_dedup.1 once)
  have missing : c.find? t.key = none ↔ t ∉ found := by
    rw [keeps.find?_eq_none_iff keys knownOnce member, List.mem_dedup]
  unfold ColumnCache.resolve
  -- a type that is found again adds nothing
  by_cases again : t ∈ found
  · rcases Option.ne_none_iff_exists'.1 (fun none => missing.1 none again) with ⟨columns, kept⟩
    rw [kept, List.dedup_cons_of_mem again]
    exact keeps
  · rw [missing.2 again, List.dedup_cons_of_notMem again]
    exact congrArg (List.cons (t.key, t.columns)) keeps

/-- What happens to a cache leaves it with the record types resolved since it was last cleared, once
each. -/
theorem Keeps.foldl_next {found : List RecordType} (keeps : c.Keeps found.dedup)
    (keys : Set.InjOn RecordType.key types) (known : ∀ t ∈ found, t ∈ types)
    {events : List CacheEvent} (among : ∀ e ∈ events, e.In types) :
    (events.foldl next c).Keeps (events.foldl CacheEvent.found found).dedup := by
  induction events generalizing c found with
  | nil => exact keeps
  | cons e rest ih =>
    rcases List.forall_mem_cons.1 among with ⟨first, others⟩
    cases e with
    | resolve r t =>
      exact ih (keeps.resolve keys known first) (List.forall_mem_cons.2 ⟨first, known⟩) others
    -- a cleared cache starts again from nothing
    | clear r => exact ih rfl (List.forall_mem_nil _) others

end ColumnCache

/-! ## All caches -/

namespace ColumnCaches

/-- The shared cache and some number of others, with nothing in them.  One that is made later is one
to which nothing happens before. -/
def fresh (number : Nat) : ColumnCaches :=
  { own := List.replicate number {} }

/-- The cache of the reference has been made. -/
def Has (cs : ColumnCaches) : CacheRef → Prop
  | .shared => True
  | .own i => i < cs.own.length

/-- The caches after something has happened to one of them. -/
def next (cs : ColumnCaches) : CacheEvent → ColumnCaches
  | .resolve ref t => (resolve ref t cs).2
  | .clear ref => cs.clear ref

/-- The caches after a history. -/
def after (cs : ColumnCaches) (history : List CacheEvent) : ColumnCaches :=
  history.foldl next cs

theorem after_append (cs : ColumnCaches) (earlier later : List CacheEvent) :
    cs.after (earlier ++ later) = (cs.after earlier).after later :=
  List.foldl_append

/-- Fresh caches are empty. -/
theorem cacheAt_fresh (number : Nat) (ref : CacheRef) : (fresh number).cacheAt ref = {} := by
  cases ref with
  | shared => rfl
  | own i =>
    show (List.replicate number ({} : ColumnCache))[i]?.getD {} = {}
    rw [List.getElem?_replicate]
    split
    · rfl
    · rfl

section

variable {cs : ColumnCaches} {ref : CacheRef} {types : Set RecordType}

theorem next_eq (cs : ColumnCaches) (e : CacheEvent) :
    cs.next e = cs.replace e.ref ((cs.cacheAt e.ref).next e) := by
  cases e with
  | _ => rfl

theorem cacheAt_replace_of_ne {other : CacheRef} (ne : ref ≠ other) (c : ColumnCache) :
    (cs.replace ref c).cacheAt other = cs.cacheAt other := by
  cases ref with
  | shared =>
    cases other with
    | shared => exact absurd rfl ne
    | own j => rfl
  | own i =>
    cases other with
    | shared => rfl
    | own j =>
      have apart : i ≠ j := fun same => ne (congrArg CacheRef.own same)
      show ((cs.own.set i c)[j]?).getD {} = _
      rw [List.getElem?_set_ne apart]
      rfl

/-- A cache that was made is what it was replaced by. -/
theorem cacheAt_replace_of_has (made : cs.Has ref) (c : ColumnCache) :
    (cs.replace ref c).cacheAt ref = c := by
  cases ref with
  | shared => rfl
  | own i =>
    have inside : i < cs.own.length := made
    show ((cs.own.set i c)[i]?).getD {} = c
    rw [List.getElem?_set_self inside]
    rfl

/-- To replace a cache that was never made does nothing. -/
theorem replace_of_not_has (missing : ¬cs.Has ref) (c : ColumnCache) : cs.replace ref c = cs := by
  cases ref with
  | shared => exact absurd trivial missing
  | own i =>
    have outside : cs.own.length ≤ i := Nat.le_of_not_lt missing
    rw [replace, List.set_eq_of_length_le outside]

/-- What happens to one cache does not happen to another. -/
theorem cacheAt_next_of_ne {e : CacheEvent} (ne : e.ref ≠ ref) :
    (cs.next e).cacheAt ref = cs.cacheAt ref := by
  rw [next_eq, cacheAt_replace_of_ne ne]

theorem cacheAt_next_of_has {e : CacheEvent} (made : cs.Has e.ref) :
    (cs.next e).cacheAt e.ref = (cs.cacheAt e.ref).next e := by
  rw [next_eq, cacheAt_replace_of_has made]

/-- A property of a cache that is kept by what happens to it. -/
theorem cacheAt_next_rec {P : ColumnCache → Prop} {e : CacheEvent} (before : P (cs.cacheAt ref))
    (kept : e.ref = ref → P ((cs.cacheAt ref).next e)) : P ((cs.next e).cacheAt ref) := by
  -- the event happens to this cache, unless it was never made, or to another one
  by_cases own : e.ref = ref
  · subst own
    by_cases made : cs.Has e.ref
    · rw [cacheAt_next_of_has made]
      exact kept rfl
    · rw [next_eq, replace_of_not_has made]
      exact before
  · rw [cacheAt_next_of_ne own]
    exact before

/-- No event takes a cache away. -/
theorem Has.next (made : cs.Has ref) (e : CacheEvent) : (cs.next e).Has ref := by
  rw [next_eq]
  cases ref with
  | shared => trivial
  | own j =>
    have inside : j < cs.own.length := made
    cases e.ref with
    | shared => exact inside
    | own i => exact inside.trans_eq (List.length_set).symm

/-- What has happened to a cache after a history is what happened to it by itself. -/
theorem cacheAt_after (made : cs.Has ref) (history : List CacheEvent) :
    (cs.after history).cacheAt ref =
      (history.filter fun e => e.ref = ref).foldl ColumnCache.next (cs.cacheAt ref) := by
  induction history generalizing cs with
  | nil => rfl
  | cons e rest ih =>
    show ((cs.next e).after rest).cacheAt ref = _
    rw [ih (made.next e)]
    by_cases own : e.ref = ref
    · subst own
      rw [cacheAt_next_of_has made, List.filter_cons_of_pos (by simp), List.foldl_cons]
    · rw [cacheAt_next_of_ne own, List.filter_cons_of_neg (by simpa using own)]

/-! ## No cache knows wrong columns -/

/-- Every cache that keeps columns of one of these record types keeps those it has. -/
def Sound (types : Set RecordType) (cs : ColumnCaches) : Prop :=
  ∀ ref, ∀ t ∈ types, (cs.cacheAt ref).Knows t

theorem sound_fresh (types : Set RecordType) (number : Nat) : (fresh number).Sound types := by
  intro ref t _
  rw [cacheAt_fresh]
  exact ColumnCache.knows_empty t

/-- Resolving gives the columns of the record type, whichever cache they come from. -/
theorem Sound.resolve (sound : cs.Sound types) (ref : CacheRef) {t : RecordType}
    (member : t ∈ types) : (ColumnCaches.resolve ref t cs).1 = t.columns :=
  (sound ref t member).resolve_columns

theorem Sound.next (sound : cs.Sound types) (keys : Set.InjOn RecordType.key types)
    {e : CacheEvent} (among : e.In types) : (cs.next e).Sound types := by
  intro ref t member
  have before : (cs.cacheAt ref).Knows t := sound ref t member
  exact cacheAt_next_rec (P := fun c => c.Knows t) before fun _ => before.next keys member among

/-- Caches stay sound, whatever happens to them. -/
theorem Sound.after (sound : cs.Sound types) (keys : Set.InjOn RecordType.key types)
    {history : List CacheEvent} (among : ∀ e ∈ history, e.In types) :
    (cs.after history).Sound types := by
  induction history generalizing cs with
  | nil => exact sound
  | cons e rest ih =>
    rcases List.forall_mem_cons.1 among with ⟨first, others⟩
    exact ih (sound.next keys first) others

/-! ## What is kept stays -/

/-- What a cache keeps stays in it while it is not cleared. -/
theorem find?_after {key : String} {columns : List String}
    (kept : (cs.cacheAt ref).find? key = some columns) {history : List CacheEvent}
    (uncleared : .clear ref ∉ history) :
    ((cs.after history).cacheAt ref).find? key = some columns := by
  induction history generalizing cs with
  | nil => exact kept
  | cons e rest ih =>
    have first : e.ref = ref → ∀ r, e ≠ .clear r := by
      rintro rfl r rfl
      exact uncleared List.mem_cons_self
    have keptThen : ((cs.next e).cacheAt ref).find? key = some columns :=
      cacheAt_next_rec (P := fun c => c.find? key = some columns) kept
        fun own => ColumnCache.find?_next kept (first own)
    exact ih keptThen fun later => uncleared (List.mem_cons_of_mem e later)

end

/-! ## What is kept -/

/-- The record types resolved in a cache since it was last cleared, the latest first. -/
def resolvedSince (ref : CacheRef) (history : List CacheEvent) : List RecordType :=
  (history.filter fun e => e.ref = ref).foldl CacheEvent.found []

section

variable {number : Nat} {ref : CacheRef} {types : Set RecordType} {history : List CacheEvent}
  (made : (fresh number).Has ref) (keys : Set.InjOn RecordType.key types)
  (among : ∀ e ∈ history, e.In types)

include made keys among

/-- After a history a cache keeps the record types resolved in it since it was last cleared, once
each. -/
theorem keeps_after :
    (((fresh number).after history).cacheAt ref).Keeps (resolvedSince ref history).dedup := by
  rw [cacheAt_after made, cacheAt_fresh]
  have amongOwn : ∀ e ∈ history.filter fun e => e.ref = ref, e.In types :=
    fun e own => among e (List.mem_of_mem_filter own)
  have empty : ColumnCache.Keeps {} ([] : List RecordType).dedup := rfl
  exact empty.foldl_next keys (List.forall_mem_nil _) amongOwn

/-- A cache keeps as many entries as distinct record types were resolved in it since it was last
cleared. -/
theorem size_after :
    (((fresh number).after history).cacheAt ref).size =
      (resolvedSince ref history).toFinset.card := by
  have keeps := keeps_after made keys among
  rw [ColumnCache.size, keeps, List.length_map, List.card_toFinset]

end

end ColumnCaches

end SqlCompose
