import SqlCompose.KeyMap

/-! # Statement registries

A registry keeps prepared statements by name, each with the SQL it was prepared from.  A name alone
does not identify a statement: an entry answers for its own SQL only, and a name that is taken by
other SQL is never given to another statement.

Main statements: `lookup_insertIfAbsent` (a registered statement is found by its name and SQL) and
`insertIfAbsent_of_collision` (an entry for other SQL stays as it is).
-/

namespace SqlCompose.Postgres

/-- A statement with the SQL it was prepared from. -/
structure Registered (α : Type u) where
  sql : String
  statement : α

/-- Prepared statements by name. -/
abbrev Registry (α : Type u) := KeyMap (Registered α)

/-- What a registry says of a name and an SQL text. -/
inductive Lookup (α : Type u) where
  /-- The name stands for this SQL. -/
  | hit (statement : α)
  /-- The name is free. -/
  | miss
  /-- The name stands for other SQL. -/
  | collision
  deriving DecidableEq

namespace Registry

variable {α : Type u}

def lookup (r : Registry α) (name sql : String) : Lookup α :=
  match r.get? name with
  | some entry => if entry.sql = sql then .hit entry.statement else .collision
  | none => .miss

/-- Register a statement unless its name is taken.  The answer is the statement to use: one that is
registered for the same SQL, else the given one. -/
def insertIfAbsent (r : Registry α) (name sql : String) (statement : α) : α × Registry α :=
  match r.lookup name sql with
  | .hit registered => (registered, r)
  | .collision => (statement, r)
  | .miss => (statement, r.insert name ⟨sql, statement⟩)

/-- Remove the entry of a name if its statement passes a test, and tell whether it did. -/
def removeIf (r : Registry α) (name : String) (test : α → Bool) : Bool × Registry α :=
  if (r.get? name).any fun entry => test entry.statement then (true, r.erase name) else (false, r)

/-- After a registration the name stands for the statement that the registration answered with. -/
theorem lookup_insertIfAbsent (r : Registry α) (name sql : String) (statement : α)
    (h : r.lookup name sql ≠ .collision) :
    (r.insertIfAbsent name sql statement).2.lookup name sql
      = .hit (r.insertIfAbsent name sql statement).1 := by
  unfold insertIfAbsent
  split
  · assumption
  · -- a collision has been ruled out
    contradiction
  · simp [lookup, KeyMap.get?_insert]

/-- A name that stands for other SQL is left alone. -/
theorem insertIfAbsent_of_collision (r : Registry α) (name sql : String) (statement : α)
    (h : r.lookup name sql = .collision) :
    r.insertIfAbsent name sql statement = (statement, r) := by
  simp [insertIfAbsent, h]

/-- A miss means that the name has no entry. -/
theorem lookup_eq_miss {r : Registry α} {name sql : String} (h : r.lookup name sql = .miss) :
    r.get? name = none := by
  unfold lookup at h
  split at h
  · split at h
    · cases h
    · cases h
  · assumption

/-- A hit means that the entry of the name was prepared from this very SQL. -/
theorem lookup_eq_hit {r : Registry α} {name sql : String} {statement : α}
    (h : r.lookup name sql = .hit statement) : r.get? name = some ⟨sql, statement⟩ := by
  unfold lookup at h
  split at h
  · rename_i entry found
    split at h
    · rename_i same
      cases h
      rw [found, ← same]
    · cases h
  · cases h

/-- What is left after a removal: everything but the entry of the name, if that passes the test. -/
theorem get?_removeIf {r : Registry α} {name other : String} {test : α → Bool}
    {entry : Registered α} :
    (r.removeIf name test).2.get? other = some entry ↔
      r.get? other = some entry ∧ ¬(other = name ∧ test entry.statement = true) := by
  unfold removeIf
  by_cases passes : ((r.get? name).any fun entry => test entry.statement) = true
  · rw [if_pos passes, KeyMap.get?_erase]
    by_cases same : other = name
    · subst same
      rw [if_pos rfl]
      constructor
      · intro found
        cases found
      · rintro ⟨found, fails⟩
        rw [found] at passes
        exact absurd ⟨rfl, passes⟩ fails
    · rw [if_neg same]
      exact ⟨fun found => ⟨found, fun bad => same bad.1⟩, And.left⟩
  · rw [if_neg passes]
    constructor
    · intro found
      refine ⟨found, ?_⟩
      rintro ⟨rfl, bad⟩
      rw [found] at passes
      exact passes bad
    · exact And.left

end Registry

end SqlCompose.Postgres
