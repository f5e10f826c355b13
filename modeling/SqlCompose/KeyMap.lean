import SqlCompose.Bytes

/-! # Maps from column names

A `KeyMap` holds one item per key and lists its entries by strictly increasing key, keys being
compared by their UTF-8 octets.  The order is part of the type, so a map is determined by what it
holds under each key and not by how it was filled.

Main statements: `get?_insert` and `get?_erase` (insertion and removal are seen under their own key
only), `insertEntry_sorted` (insertion keeps the order) and `get?_of_mem` (every entry is found).
-/

namespace SqlCompose

/-- Keys are ordered as their UTF-8 octets are. -/
def KeyBefore (a b : String) : Prop := utf8 a < utf8 b

instance (a b : String) : Decidable (KeyBefore a b) :=
  inferInstanceAs (Decidable (utf8 a < utf8 b))

theorem KeyBefore.irrefl (a : String) : ¬KeyBefore a a := List.lt_irrefl _

theorem KeyBefore.trans {a b c : String} (h : KeyBefore a b) (h' : KeyBefore b c) :
    KeyBefore a c := List.lt_trans h h'

theorem KeyBefore.asymm {a b : String} (h : KeyBefore a b) : ¬KeyBefore b a :=
  fun h' => KeyBefore.irrefl a (h.trans h')

/-- The order is total: of two different keys one comes first. -/
theorem KeyBefore.of_not {a b : String} (h : ¬KeyBefore a b) (ne : a ≠ b) : KeyBefore b a := by
  apply Classical.byContradiction
  intro h'
  exact ne (utf8_inj (List.le_antisymm (List.not_lt.1 h') (List.not_lt.1 h)))

instance : Std.Irrefl KeyBefore := ⟨KeyBefore.irrefl⟩

instance : Std.Antisymm KeyBefore := ⟨fun _ _ before after => absurd after before.asymm⟩

/-- Put an item under a key into a list of entries in key order. -/
def insertEntry {α : Type u} (key : String) (item : α) :
    List (String × α) → List (String × α)
  | [] => [(key, item)]
  | (k, x) :: rest =>
    if key = k then (key, item) :: rest
    else if KeyBefore key k then (key, item) :: (k, x) :: rest
    else (k, x) :: insertEntry key item rest

/-- Entries by strictly increasing key. -/
def EntriesSorted {α : Type u} (entries : List (String × α)) : Prop :=
  entries.Pairwise fun a b => KeyBefore a.1 b.1

/-- An insertion brings in nothing but the new entry. -/
theorem mem_insertEntry {α : Type u} {key : String} {item : α} {entries : List (String × α)}
    {e : String × α} (h : e ∈ insertEntry key item entries) : e = (key, item) ∨ e ∈ entries := by
  induction entries with
  | nil => simpa [insertEntry] using h
  | cons head rest ih =>
    obtain ⟨k, x⟩ := head
    unfold insertEntry at h
    -- the key may be that of the head, come before it, or belong further behind
    split at h
    · rcases List.mem_cons.1 h with rfl | h
      · exact .inl rfl
      · exact .inr (List.mem_cons_of_mem _ h)
    · split at h
      · exact List.mem_cons.1 h
      · rcases List.mem_cons.1 h with rfl | h
        · exact .inr List.mem_cons_self
        · exact (ih h).imp_right (List.mem_cons_of_mem _)

/-- An insertion keeps the entries by strictly increasing key. -/
theorem insertEntry_sorted {α : Type u} (key : String) (item : α)
    {entries : List (String × α)} (h : EntriesSorted entries) :
    EntriesSorted (insertEntry key item entries) := by
  induction entries with
  | nil => simp [insertEntry, EntriesSorted]
  | cons head rest ih =>
    obtain ⟨k, x⟩ := head
    have hrest : EntriesSorted rest := (List.pairwise_cons.1 h).2
    have hhead := (List.pairwise_cons.1 h).1
    unfold insertEntry
    split
    · rename_i heq
      subst heq
      exact List.pairwise_cons.2 ⟨hhead, hrest⟩
    · rename_i hne
      split
      · rename_i hlt
        refine List.pairwise_cons.2 ⟨fun e he => ?_, h⟩
        rcases List.mem_cons.1 he with rfl | he
        · exact hlt
        · -- the new key is before the head, and so before all that follow
          exact hlt.trans (hhead e he)
      · rename_i hnlt
        refine List.pairwise_cons.2 ⟨fun e he => ?_, ih hrest⟩
        -- what is in the rest now is the new entry or was there
        rcases mem_insertEntry he with rfl | he
        · exact KeyBefore.of_not hnlt hne
        · exact hhead e he

/-- The first entry counts if its key is the one looked for. -/
theorem lookup_entry {α : Type u} (key k : String) (x : α) (rest : List (String × α)) :
    ((k, x) :: rest).lookup key = if key = k then some x else rest.lookup key := by
  rw [List.lookup_cons]
  by_cases same : key = k
  · rw [if_pos same, beq_iff_eq.2 same]
  · rw [if_neg same, beq_eq_false_iff_ne.2 same]

/-- An insertion is seen under its own key only. -/
theorem lookup_insertEntry {α : Type u} (key : String) (item : α)
    (entries : List (String × α)) (other : String) :
    (insertEntry key item entries).lookup other
      = if other = key then some item else entries.lookup other := by
  induction entries with
  | nil => rw [insertEntry, lookup_entry]
  | cons head rest ih =>
    obtain ⟨k, x⟩ := head
    unfold insertEntry
    split
    · -- the key is here already, with another item
      next same =>
      subst same
      rw [lookup_entry, lookup_entry]
      split
      · rfl
      · rfl
    · next different =>
      split
      · rw [lookup_entry]
      · -- the key comes further behind
        rw [lookup_entry, lookup_entry, ih]
        split
        · next found =>
          subst found
          rw [if_neg fun same => different same.symm]
        · rfl

/-- What is left without a key is found as before. -/
theorem lookup_filter {α : Type u} (key : String) (entries : List (String × α))
    (other : String) :
    (entries.filter (·.1 ≠ key)).lookup other
      = if other = key then none else entries.lookup other := by
  induction entries with
  | nil => rw [List.filter_nil, List.lookup_nil, ite_self]
  | cons head rest ih =>
    obtain ⟨k, x⟩ := head
    by_cases removed : k = key
    · -- the entry goes, and it could only be found under the key that goes with it
      subst removed
      rw [List.filter_cons_of_neg (by simp), ih, lookup_entry]
      split
      · rfl
      · rfl
    · rw [List.filter_cons_of_pos (by simpa using removed), lookup_entry, lookup_entry, ih]
      split
      · next found =>
        subst found
        rw [if_neg removed]
      · rfl

/-- What is found under a key is an entry. -/
theorem mem_of_lookup {α : Type u} {key : String} {entries : List (String × α)} {x : α}
    (found : entries.lookup key = some x) : (key, x) ∈ entries := by
  rcases List.lookup_eq_some_iff.1 found with ⟨before, after, rfl, _⟩
  exact List.mem_append_right _ List.mem_cons_self

/-- In entries by increasing key, every entry is found. -/
theorem lookup_of_mem {α : Type u} {key : String} {item : α} {entries : List (String × α)}
    (sorted : EntriesSorted entries) (mem : (key, item) ∈ entries) :
    entries.lookup key = some item := by
  rcases List.append_of_mem mem with ⟨before, after, rfl⟩
  refine List.lookup_eq_some_iff.2 ⟨before, after, rfl, ?_⟩
  intro entry earlier
  have less : KeyBefore entry.1 key :=
    (List.pairwise_append.1 sorted).2.2 entry earlier _ List.mem_cons_self
  apply bne_iff_ne.2
  rintro rfl
  exact KeyBefore.irrefl _ less

/-- A finite map from texts, listed by strictly increasing key. -/
structure KeyMap (α : Type u) where
  /-- The entries, by strictly increasing key. -/
  entries : List (String × α)
  sorted : EntriesSorted entries

namespace KeyMap

variable {α : Type u}

def empty : KeyMap α := ⟨[], .nil⟩

instance : Inhabited (KeyMap α) := ⟨empty⟩

/-- Put an item under a key, in place of what was there. -/
def insert (m : KeyMap α) (key : String) (item : α) : KeyMap α :=
  ⟨insertEntry key item m.entries, insertEntry_sorted key item m.sorted⟩

/-- Remove what is under a key. -/
def erase (m : KeyMap α) (key : String) : KeyMap α :=
  ⟨m.entries.filter (·.1 ≠ key), List.Pairwise.filter _ m.sorted⟩

def get? (m : KeyMap α) (key : String) : Option α :=
  m.entries.lookup key

def keys (m : KeyMap α) : List String :=
  m.entries.map (·.1)

def size (m : KeyMap α) : Nat :=
  m.entries.length

def isEmpty (m : KeyMap α) : Bool :=
  m.entries.isEmpty

/-- The map that inserting pairs from left to right makes; a later pair replaces an earlier one
with its key. -/
def ofList (pairs : List (String × α)) : KeyMap α :=
  pairs.foldl (fun m p => m.insert p.1 p.2) empty

/-- The new item is found under its key, and under every other key what was there before. -/
theorem get?_insert (m : KeyMap α) (key : String) (item : α) (other : String) :
    (m.insert key item).get? other = if other = key then some item else m.get? other :=
  lookup_insertEntry key item m.entries other

/-- Nothing is found under the removed key, and under every other key what was there before. -/
theorem get?_erase (m : KeyMap α) (key : String) (other : String) :
    (m.erase key).get? other = if other = key then none else m.get? other :=
  lookup_filter key m.entries other

/-- A map in which nothing is found has no entries. -/
theorem size_eq_zero {m : KeyMap α} (none : ∀ key, m.get? key = none) : m.size = 0 := by
  rcases m with ⟨entries, sorted⟩
  cases entries with
  | nil => rfl
  | cons head rest =>
    have found := none head.1
    rw [get?, List.lookup_cons_self] at found
    cases found

theorem keys_sorted (m : KeyMap α) : m.keys.Pairwise KeyBefore :=
  List.pairwise_map.2 m.sorted

/-- Every entry is found under its key. -/
theorem get?_of_mem {m : KeyMap α} {key : String} {item : α} (h : (key, item) ∈ m.entries) :
    m.get? key = some item :=
  lookup_of_mem m.sorted h

theorem mem_keys_of_get? {m : KeyMap α} {key : String} {item : α} (h : m.get? key = some item) :
    key ∈ m.keys :=
  List.mem_map.2 ⟨(key, item), mem_of_lookup h, rfl⟩

@[simp] theorem get?_empty (key : String) : (empty : KeyMap α).get? key = none := rfl

end KeyMap

end SqlCompose
