import Mathlib.Data.List.Forall2
import Mathlib.Data.List.Sort
import SqlCompose.Stmt.Builder
import SqlCompose.Stmt.Render

/-! # Maps do not show how they were filled

What a map holds under a key is the last item inserted under it (`KeyMap.get?_ofList`), and its
entries are listed in the order of the keys, so a map is determined by what is found in it
(`KeyMap.eq_of_get?_eq`).  Insertions that leave the same last items fill the same map, in whatever
order they were made and however often they replaced what was there.

Calls that are given one map or the other do the same: those that go through its entries meet them
in the same order, and those that look keys up find the same operands.

Main statement: `insertions_determine_map`.
-/

namespace SqlCompose

section

variable {α : Type}

/-! ## The last item under a key -/

/-- The item of the last pair with a key. -/
def lastUnder (key : String) : List (String × α) → Option α
  | [] => none
  | (k, x) :: rest => (lastUnder key rest).or (if key = k then some x else none)

/-- Nothing is found under a key that no pair has. -/
theorem lastUnder_eq_none_iff {key : String} {pairs : List (String × α)} :
    lastUnder key pairs = none ↔ key ∉ pairs.map (·.1) := by
  induction pairs with
  | nil => simp [lastUnder]
  | cons pair rest ih =>
    rcases pair with ⟨k, x⟩
    rw [lastUnder, Option.or_eq_none_iff, ih]
    simp [and_comm]

/-- The last pair with a key is one behind which the key does not come again. -/
theorem lastUnder_eq_some_iff {key : String} {item : α} {pairs : List (String × α)} :
    lastUnder key pairs = some item ↔
      ∃ before after, pairs = before ++ (key, item) :: after ∧ key ∉ after.map (·.1) := by
  induction pairs with
  | nil => simp [lastUnder]
  | cons pair rest ih =>
    rcases pair with ⟨k, x⟩
    rw [lastUnder, Option.or_eq_some_iff, ih, lastUnder_eq_none_iff]
    constructor
    · -- a later pair has the key, or this one is the last with it
      rintro (⟨before, after, rfl, last⟩ | ⟨last, here⟩)
      · exact ⟨(k, x) :: before, after, rfl, last⟩
      · split at here
        · next same =>
          cases here
          exact ⟨[], rest, by rw [same]; rfl, last⟩
        · cases here
    · rintro ⟨before, after, split_eq, last⟩
      -- the last pair with the key is the first of the list, or behind it
      cases before with
      | nil =>
        cases split_eq
        exact .inr ⟨last, if_pos rfl⟩
      | cons first before =>
        cases split_eq
        exact .inl ⟨before, after, rfl, last⟩

/-- Where no key comes twice, every pair is the last with its key. -/
theorem lastUnder_eq_some_iff_mem {key : String} {item : α} {pairs : List (String × α)}
    (distinct : (pairs.map (·.1)).Nodup) :
    lastUnder key pairs = some item ↔ (key, item) ∈ pairs := by
  rw [lastUnder_eq_some_iff]
  constructor
  · rintro ⟨before, after, rfl, _⟩
    exact List.mem_append_right _ List.mem_cons_self
  · intro member
    rcases List.append_of_mem member with ⟨before, after, rfl⟩
    refine ⟨before, after, rfl, ?_⟩
    rw [List.map_append, List.map_cons] at distinct
    exact (List.nodup_cons.1 (List.nodup_append.1 distinct).2.1).1

/-- Where no key comes twice, the order of the pairs does not matter. -/
theorem lastUnder_perm {pairs pairs' : List (String × α)} (perm : pairs.Perm pairs')
    (distinct : (pairs.map (·.1)).Nodup) (key : String) :
    lastUnder key pairs = lastUnder key pairs' := by
  have distinct' : (pairs'.map (·.1)).Nodup := (perm.map _).nodup_iff.1 distinct
  apply Option.ext
  intro item
  rw [lastUnder_eq_some_iff_mem distinct, lastUnder_eq_some_iff_mem distinct', perm.mem_iff]

/-! ## Maps are determined by what is found in them -/

namespace KeyMap

/-- An entry of a map is what is found under its key. -/
theorem mem_entries_iff {m : KeyMap α} {key : String} {item : α} :
    (key, item) ∈ m.entries ↔ m.get? key = some item :=
  ⟨get?_of_mem, mem_of_lookup⟩

instance : Std.Irrefl fun a b : String × α => KeyBefore a.1 b.1 :=
  ⟨fun e => KeyBefore.irrefl e.1⟩

instance : Std.Antisymm fun a b : String × α => KeyBefore a.1 b.1 :=
  ⟨fun _ _ before after => absurd after before.asymm⟩

/-- Maps in which the same is found under every key are equal. -/
theorem eq_of_get?_eq {m m' : KeyMap α} (same : ∀ key, m.get? key = m'.get? key) : m = m' := by
  -- both lists are sorted, and a sorted list is known from its entries
  have entries : m.entries = m'.entries := by
    refine List.Pairwise.eq_of_mem_iff m.sorted m'.sorted ?_
    rintro ⟨key, item⟩
    rw [mem_entries_iff, mem_entries_iff, same]
  rcases m with ⟨entries, sorted⟩
  cases entries
  rfl

/-- Insertions into a map leave the last item under a key, or what was there. -/
theorem get?_foldl_insert (m : KeyMap α) (pairs : List (String × α)) (key : String) :
    (pairs.foldl (fun m p => m.insert p.1 p.2) m).get? key =
      (lastUnder key pairs).or (m.get? key) := by
  -- each insertion changes the map that the later ones go into
  induction pairs generalizing m with
  | nil => rfl
  | cons pair rest ih =>
    rw [List.foldl_cons, ih, get?_insert, lastUnder, Option.or_assoc]
    split
    · rfl
    · rfl

/-- What a map holds under a key is the last item inserted under it. -/
theorem get?_ofList (pairs : List (String × α)) (key : String) :
    (ofList pairs).get? key = lastUnder key pairs := by
  rw [ofList, get?_foldl_insert, get?_empty, Option.or_none]

end KeyMap

end

/-! ## One map in place of another -/

/-- The inputs are the same, or one is the first map and the other the second. -/
inductive Data.Swapped (m m' : ColumnMap) : Data → Data → Prop
  | same (d : Data) : Swapped m m' d d
  | map : Swapped m m' (.map m) (.map m')

/-- The queries are the same, or one is the first map and the other the second. -/
inductive Query.Swapped (m m' : ColumnMap) : Query → Query → Prop
  | same (q : Query) : Swapped m m' q q
  | map : Swapped m m' (.map m) (.map m')

/-- The calls are the same, but where one is given the first map the other may be given the
second. -/
inductive Call.Swapped (m m' : ColumnMap) : Call → Call → Prop
  | same (call : Call) : Swapped m m' call call
  | insert {d d' : Data} (h : d.Swapped m m' d') : Swapped m m' (.insert d) (.insert d')
  | insertBulk {ds ds' : List Data} (h : List.Forall₂ (Data.Swapped m m') ds ds') :
      Swapped m m' (.insertBulk ds) (.insertBulk ds')
  | delete {d d' : Data} (h : d.Swapped m m' d') : Swapped m m' (.delete d) (.delete d')
  | update {d d' : Data} (h : d.Swapped m m' d') : Swapped m m' (.update d) (.update d')
  | select {d d' : Data} (h : d.Swapped m m' d') : Swapped m m' (.select d) (.select d')
  | intoTable {d d' : Data} (h : d.Swapped m m' d') : Swapped m m' (.intoTable d) (.intoTable d')
  | values {d d' : Data} (h : d.Swapped m m' d') : Swapped m m' (.values d) (.values d')
  | valuesBulk {ds ds' : List Data} (h : List.Forall₂ (Data.Swapped m m') ds ds') :
      Swapped m m' (.valuesBulk ds) (.valuesBulk ds')
  | source {d d' : Data} (h : d.Swapped m m' d') (alias? : Option String) :
      Swapped m m' (.source d alias?) (.source d' alias?)
  | setAll {d d' : Data} (h : d.Swapped m m' d') : Swapped m m' (.setAll d) (.setAll d')
  | condition (op : Connective) {q q' : Query} (h : q.Swapped m m' q') :
      Swapped m m' (.condition op q) (.condition op q')
  | having (op : Connective) {q q' : Query} (h : q.Swapped m m' q') :
      Swapped m m' (.having op q) (.having op q')

section

variable {m m' : ColumnMap} (maps : m = m')

include maps

theorem Data.Swapped.eq {d d' : Data} (h : d.Swapped m m' d') : d = d' := by
  cases h with
  | same => rfl
  | map => rw [maps]

theorem Query.Swapped.eq {q q' : Query} (h : q.Swapped m m' q') : q = q' := by
  cases h with
  | same => rfl
  | map => rw [maps]

theorem Data.Swapped.eq_all {ds ds' : List Data} (h : List.Forall₂ (Data.Swapped m m') ds ds') :
    ds = ds' :=
  List.forall₂_eq_eq_eq ▸ h.imp fun _ _ swapped => swapped.eq maps

/-- Equal maps make swapped calls equal. -/
theorem Call.Swapped.eq {call call' : Call} (h : call.Swapped m m' call') : call = call' := by
  cases h with
  | same => rfl
  | insertBulk rows => rw [Data.Swapped.eq_all maps rows]
  | valuesBulk rows => rw [Data.Swapped.eq_all maps rows]
  | condition op query => rw [query.eq maps]
  | having op query => rw [query.eq maps]
  | source input alias? => rw [input.eq maps]
  | insert input => rw [input.eq maps]
  | delete input => rw [input.eq maps]
  | update input => rw [input.eq maps]
  | select input => rw [input.eq maps]
  | intoTable input => rw [input.eq maps]
  | values input => rw [input.eq maps]
  | setAll input => rw [input.eq maps]

theorem Call.Swapped.eq_all {calls calls' : List Call}
    (h : List.Forall₂ (Call.Swapped m m') calls calls') : calls = calls' :=
  List.forall₂_eq_eq_eq ▸ h.imp fun _ _ swapped => swapped.eq maps

end

/-- A map lists its keys in order, each once, and has the last item that was inserted under a key.
Insertions with distinct keys may be made in any order, and insertions that leave the same last
items fill maps with the same entries.  Calls that are given one of these maps in place of the other
build the same statement, which is written with the same text, arguments and groups in every
dialect. -/
theorem insertions_determine_map :
    (∀ pairs : List (String × Operand),
      (KeyMap.ofList pairs).keys.Pairwise KeyBefore ∧ (KeyMap.ofList pairs).keys.Nodup ∧
      ∀ key, (KeyMap.ofList pairs).get? key = lastUnder key pairs) ∧
    (∀ pairs pairs' : List (String × Operand), pairs.Perm pairs' → (pairs.map (·.1)).Nodup →
      ∀ key, lastUnder key pairs = lastUnder key pairs') ∧
    ∀ pairs pairs' : List (String × Operand),
      (∀ key, lastUnder key pairs = lastUnder key pairs') →
      (KeyMap.ofList pairs).entries = (KeyMap.ofList pairs').entries ∧
      ∀ (s : Stmt) (calls calls' : List Call),
        List.Forall₂ (Call.Swapped (.ofList pairs) (.ofList pairs')) calls calls' →
        ∀ caches : ColumnCaches, s.run calls caches = s.run calls' caches ∧
          ∀ dialect, (s.run calls caches).1.render dialect
            = (s.run calls' caches).1.render dialect := by
  refine ⟨?_, ?_, ?_⟩
  · intro pairs
    have sorted := (KeyMap.ofList pairs).keys_sorted
    exact ⟨sorted, sorted.nodup, KeyMap.get?_ofList pairs⟩
  · intro pairs pairs' perm distinct
    exact lastUnder_perm perm distinct
  · intro pairs pairs' same
    have maps : KeyMap.ofList pairs = KeyMap.ofList pairs' := by
      apply KeyMap.eq_of_get?_eq
      intro key
      rw [KeyMap.get?_ofList, KeyMap.get?_ofList, same]
    refine ⟨by rw [maps], ?_⟩
    intro s calls calls' swapped caches
    rw [Call.Swapped.eq_all maps swapped]
    exact ⟨rfl, fun _ => rfl⟩

/-- Insertions, the first of which is replaced. -/
def replacing : List (String × Operand) :=
  [("é", .raw "NOW()"), ("b", .value (.int32 2)), ("a", .stmt {}), ("é", .value (.int32 1))]

/-- Other insertions that leave the same under every key. -/
def reordered : List (String × Operand) :=
  [("b", .value .null), ("é", .value (.int32 1)), ("a", .stmt {}), ("b", .value (.int32 2))]

/-- Rows under the columns of a map, and a condition. -/
def callsWith (m : ColumnMap) : List Call :=
  [.insert (.table "t"), .valuesBulk [.map m, .row []], .condition .or (.map m)]

/-- The two lists leave the same items, and the calls build the same statement. -/
theorem replacing_fills_reordered :
    (∀ key, lastUnder key replacing = lastUnder key reordered) ∧
    (KeyMap.ofList replacing).keys = ["a", "b", "é"] ∧
    (KeyMap.ofList replacing).entries = (KeyMap.ofList reordered).entries ∧
    Stmt.run {} (callsWith (.ofList replacing)) {} =
      Stmt.run {} (callsWith (.ofList reordered)) {} := by
  have same : ∀ key, lastUnder key replacing = lastUnder key reordered := by
    intro key
    simp only [replacing, reordered, lastUnder]
    split_ifs <;> simp_all
  have filled := insertions_determine_map.2.2 replacing reordered same
  refine ⟨same, rfl, filled.1, ?_⟩
  have swapped : List.Forall₂ (Call.Swapped (.ofList replacing) (.ofList reordered))
      (callsWith (.ofList replacing)) (callsWith (.ofList reordered)) :=
    .cons (.same _) (.cons (.valuesBulk (.cons .map (.cons (.same _) .nil)))
      (.cons (.condition .or .map) .nil))
  exact (filled.2 {} _ _ swapped {}).1

end SqlCompose
