import Mathlib.Algebra.GroupWithZero.Nat
import Mathlib.Data.List.Induction
import SqlCompose.Proofs.Postgres.Tasks

/-! # Who holds what is registered

A statement is registered for as long as nobody has given it back, and only as long as somebody can:
of every registered statement some task holds a handle, and no task has given one back.  So the
registry empties with the last handle, and giving a handle back never costs another statement its
entry, though both may have stood under one name.

Handles are told apart by a number of sixty-four bits that goes up with every handle made.  As long
as there are fewer preparations than such numbers, no number comes twice (`Accounted.budget`).  Then
two tasks that have a statement in common have been given the same handle (`Compatible`): what a
task is still preparing is its own.

Main statement: `registered_as_long_as_held`.
-/

namespace SqlCompose.Postgres

open Client Traffic

/-! ## What two tasks have in common -/

/-- Two tasks that have a statement in common have both been given its handle, and two handles with
one number are the same. -/
structure Compatible (p q : Progress) : Prop where
  statement : ∀ st st', p.statement? = some st → q.statement? = some st' →
    st.number = st'.number → ∃ h, p.returned? = some h ∧ q.returned? = some h
  handle : ∀ h h', p.handle? = some h → q.handle? = some h' → h.id = h'.id → h = h'

namespace Compatible

variable {p p' q : Progress}

/-- What two tasks have in common they have so in either order. -/
theorem symm (c : Compatible p q) : Compatible q p := by
  constructor
  · intro st st' got got' same
    rcases c.statement st' st got' got same.symm with ⟨h, returned, returned'⟩
    exact ⟨h, returned', returned⟩
  · intro h h' got got' same
    exact (c.handle h' h got' got same.symm).symm

/-- A handle and its copy are the same handle. -/
theorem holding_self (h : Handle) : Compatible (.holding h) (.holding h) := by
  constructor
  · intro _ _ _ _ _
    exact ⟨h, rfl, rfl⟩
  · intro h₁ h₂ got₁ got₂ _
    cases got₁
    cases got₂
    rfl

/-- A task without a statement. -/
theorem of_none (none : p.statement? = none) : Compatible p q := by
  constructor
  · intro st st' got _ _
    rw [none] at got
    cases got
  · intro h h' got _ _
    rw [Progress.statement?_of_handle? got] at none
    cases none

/-- A task that has just been given a statement no other task has. -/
theorem of_new {st : Prepared} {n : Nat} (got : p.statement? = some st) (none : p.handle? = none)
    (new : st.number = n + 1) (old : ∀ st', q.statement? = some st' → st'.number ≤ n) :
    Compatible p q := by
  constructor
  · intro st₁ st₂ got₁ got₂ same
    rw [got] at got₁
    cases got₁
    -- the new statement has a greater number than any other
    have := old st₂ got₂
    omega
  · intro h h' got' _ _
    rw [none] at got'
    cases got'

/-- A task goes on with a statement that is still its own. -/
theorem onward (c : Compatible p q) (own : p.returned? = none)
    (statement : p'.statement? = p.statement?)
    (handle : ∀ h h', p'.handle? = some h → q.handle? = some h' → h.id = h'.id → h = h') :
    Compatible p' q := by
  constructor
  · intro st st' got got' same
    rw [statement] at got
    rcases c.statement st st' got got' same with ⟨h, returned, _⟩
    rw [own] at returned
    cases returned
  · exact handle

end Compatible

/-- All tasks are compatible. -/
def Apart (tasks : List Task) : Prop :=
  ∀ (i j : Nat) (t u : Task), i ≠ j → tasks[i]? = some t → tasks[j]? = some u →
    Compatible t.progress u.progress

/-- A change of one task. -/
theorem Apart.set {tasks : List Task} (apart : Apart tasks) {i : Nat} {t : Task}
    (changed : ∀ j u, j ≠ i → tasks[j]? = some u → Compatible t.progress u.progress) :
    Apart (tasks.set i t) := by
  intro j k u v ne hu hv
  rw [List.getElem?_set] at hu hv
  -- of two tasks the first, the second or none is the changed one
  by_cases hj : i = j
  · subst hj
    rw [if_pos rfl] at hu
    rw [if_neg ne] at hv
    split at hu
    · cases hu
      exact changed k v (Ne.symm ne) hv
    · cases hu
  · rw [if_neg hj] at hu
    by_cases hk : i = k
    · subst hk
      rw [if_pos rfl] at hv
      split at hv
      · cases hv
        exact (changed j u ne hu).symm
      · cases hv
    · rw [if_neg hk] at hv
      exact apart j k u v ne hu hv

/-- A new task. -/
theorem Apart.concat {tasks : List Task} (apart : Apart tasks) {t : Task}
    (new : ∀ u ∈ tasks, Compatible t.progress u.progress) : Apart (tasks ++ [t]) := by
  have last : ∀ (j : Nat) (u : Task), (tasks ++ [t])[j]? = some u →
      tasks[j]? = some u ∨ j = tasks.length ∧ u = t := by
    intro j u hu
    rw [List.getElem?_append, List.getElem?_singleton] at hu
    split at hu
    · exact .inl hu
    · split at hu
      · cases hu
        exact .inr ⟨by omega, rfl⟩
      · cases hu
  intro j k u v ne hu hv
  -- of two tasks the first, the second or none is the new one
  rcases last j u hu with old | ⟨hj, rfl⟩
  · rcases last k v hv with old' | ⟨hk, rfl⟩
    · exact apart j k u v ne old old'
    · exact (new u (List.mem_of_getElem? old)).symm
  · rcases last k v hv with old | ⟨hk, _⟩
    · exact new v (List.mem_of_getElem? old)
    · omega

/-! ## Numbers -/

/-- The next number is greater by one, or starts anew from zero. -/
theorem toNat_add_one_le (x : UInt64) : (x + 1).toNat ≤ x.toNat + 1 := by
  rw [UInt64.toNat_add]
  exact Nat.mod_le _ _

theorem toNat_add_one {x : UInt64} (room : x.toNat + 1 < 2 ^ 64) :
    (x + 1).toNat = x.toNat + 1 := by
  rw [UInt64.toNat_add]
  exact Nat.mod_eq_of_lt room

/-- What a task has got is numbered within the books. -/
structure Within (b : Books) (p : Progress) : Prop where
  statement : ∀ st, p.statement? = some st → st.number ≤ b.prepared
  handle : ∀ h, p.handle? = some h → h.id.toNat < b.nextId.toNat

/-- Books that go up leave room for what was numbered before. -/
theorem Within.mono {b b' : Books} {p : Progress} (within : Within b p)
    (prepared : b.prepared ≤ b'.prepared) (nextId : b.nextId.toNat ≤ b'.nextId.toNat) :
    Within b' p := by
  constructor
  · intro st got
    have := within.statement st got
    omega
  · intro h got
    have := within.handle h got
    omega

/-- Without a statement there is no number. -/
theorem Within.of_none {b : Books} {p : Progress} (none : p.statement? = none) : Within b p := by
  constructor
  · intro st got
    rw [none] at got
    cases got
  · intro h got
    rw [Progress.statement?_of_handle? got] at none
    cases none

/-- A handle that has just been made. -/
theorem Within.of_next {b : Books} {p : Progress} {name : String} {st : Prepared}
    (old : st.number ≤ b.prepared) (room : b.nextId.toNat + 1 < 2 ^ 64)
    (handle : p.handle? = some ⟨name, b.nextId, st⟩) :
    Within { b with nextId := b.nextId + 1 } p := by
  constructor
  · intro st' got
    rw [Progress.statement?_of_handle? handle] at got
    cases got
    exact old
  · intro h got
    rw [handle] at got
    cases got
    show b.nextId.toNat < (b.nextId + 1).toNat
    rw [toNat_add_one room]
    exact Nat.lt_succ_self _

/-- Whether a handle may still be made for the preparation. -/
def Client.Preparation.awaitsNumber : {n : Nat} → Preparation n → Bool
  | _, .started _ _ => true
  | _, .missed _ _ _ => true
  | _, .answered _ _ _ _ => true
  | _, .numbered _ _ => false
  | _, .finished _ => false

/-- Whether a handle may still be made for the task. -/
def Progress.awaitsNumber : Progress → Bool
  | .preparing p => p.awaitsNumber
  | _ => false

section

variable {c c' : Client} {p p' : Progress} (moves : Moves c p c' p')

include moves

/-- A task that moves has not returned a handle yet. -/
theorem Moves.returned?_eq_none : p.returned? = none := by
  cases moves with
  | _ => rfl

/-- A move gives nothing back. -/
theorem Moves.ne_settled (h : Handle) : p' ≠ .settled h := by
  cases moves with
  | @finished n result =>
    cases result with
    | ok _ => exact nofun
    | error _ => exact nofun
  | _ => exact nofun

/-- A task that has its number does not await one again. -/
theorem Moves.awaits_le : p'.awaitsNumber.toNat ≤ p.awaitsNumber.toNat := by
  -- in the first two steps the number is still awaited, and later it is not
  cases moves with
  | missed books => exact Nat.le_refl _
  | answered _ _ books => exact Nat.le_refl _
  | @finished n result =>
    cases result with
    | ok _ => exact Nat.zero_le _
    | error _ => exact Nat.zero_le _
  | _ => exact Nat.zero_le _

/-- What a move does to the books: nothing, or it counts a statement, or it takes the number that
the task awaits, or it registers the handle of the task. -/
theorem Moves.books_cases :
    c'.books = c.books ∨
    c'.books = { c.books with prepared := c.books.prepared + 1 } ∨
    (c'.books = { c.books with nextId := c.books.nextId + 1 } ∧
      p.awaitsNumber = true ∧ p'.awaitsNumber = false) ∨
    ∃ text h, p = .preparing (.numbered text h) ∧ p' = .holding h ∧
      c'.books = { c.books with registry := c.registry.insert h.name ⟨text, h⟩ } := by
  cases moves with
  | hit _ books => exact .inl books
  | missed books => exact .inl books
  | refused _ books => exact .inl books
  | answered _ _ books => exact .inr (.inl books)
  | numbered books => exact .inr (.inr (.inl ⟨books, rfl, rfl⟩))
  | unregistered books => exact .inr (.inr (.inl ⟨books, rfl, rfl⟩))
  | joined _ books => exact .inl books
  | @entered text h _ free books => exact .inr (.inr (.inr ⟨text, h, rfl, rfl, books⟩))
  | barred books => exact .inl books
  | finished => exact .inl rfl

/-- A task takes one number at most. -/
theorem Moves.budget : c'.nextId.toNat + p'.awaitsNumber.toNat ≤
    c.nextId.toNat + p.awaitsNumber.toNat := by
  have le := moves.awaits_le
  have unchanged : c'.nextId = c.nextId → c'.nextId.toNat + p'.awaitsNumber.toNat ≤
      c.nextId.toNat + p.awaitsNumber.toNat := by
    intro same
    rw [same]
    exact Nat.add_le_add_left le _
  rcases moves.books_cases with books | books | ⟨books, awaits, done⟩ | ⟨_, _, _, _, books⟩
  · exact unchanged (nextId_eq books)
  · exact unchanged (nextId_eq books)
  · have nextId : c'.nextId = c.nextId + 1 := nextId_eq books
    rw [nextId, awaits, done]
    exact toNat_add_one_le c.nextId
  · exact unchanged (nextId_eq books)

/-- The numbers of the books go up, as long as there is room. -/
theorem Moves.books_le (room : p.awaitsNumber = true → c.nextId.toNat + 1 < 2 ^ 64) :
    c.books.prepared ≤ c'.books.prepared ∧ c.books.nextId.toNat ≤ c'.books.nextId.toNat := by
  rcases moves.books_cases with books | books | ⟨books, awaits, _⟩ | ⟨_, _, _, _, books⟩
  · rw [books]
    exact ⟨Nat.le_refl _, Nat.le_refl _⟩
  · rw [books]
    exact ⟨Nat.le_succ _, Nat.le_refl _⟩
  · rw [books]
    refine ⟨Nat.le_refl _, ?_⟩
    show c.nextId.toNat ≤ (c.nextId + 1).toNat
    rw [toNat_add_one (room awaits)]
    exact Nat.le_succ _
  · rw [books]
    exact ⟨Nat.le_refl _, Nat.le_refl _⟩

/-- What a task has got after a move is numbered within the books as well. -/
theorem Moves.within (room : p.awaitsNumber = true → c.nextId.toNat + 1 < 2 ^ 64)
    (within : Within c.books p)
    (registered : ∀ name entry, c.registry.get? name = some entry →
      Within c.books (.holding entry.statement)) : Within c'.books p' := by
  -- a found handle is numbered by its entry, and a made one by the books
  cases moves with
  | hit found books =>
    rw [books]
    exact registered _ _ (Registry.lookup_eq_hit found)
  | missed books => exact .of_none rfl
  | refused _ books => exact .of_none rfl
  | answered _ new books =>
    rw [books]
    constructor
    · intro st got
      cases got
      exact Nat.le_of_eq new
    · intro h got
      cases got
  | numbered books =>
    rw [books]
    exact .of_next (within.statement _ rfl) (room rfl) rfl
  | unregistered books =>
    rw [books]
    exact .of_next (within.statement _ rfl) (room rfl) rfl
  | joined found books =>
    rw [books]
    exact registered _ _ (Registry.lookup_eq_hit found)
  | entered free books =>
    rw [books]
    exact ⟨within.statement, within.handle⟩
  | barred books =>
    rw [books]
    exact ⟨within.statement, within.handle⟩
  | @finished n result =>
    cases result with
    | ok h => exact ⟨within.statement, within.handle⟩
    | error e => exact .of_none rfl

/-- An entry that was not there before is that of the task, which holds its handle now. -/
theorem Moves.entry {name : String} {entry : Registered Handle}
    (found : c'.registry.get? name = some entry) :
    c.registry.get? name = some entry ∨
      ∃ text, p = .preparing (.numbered text entry.statement) ∧ p' = .holding entry.statement ∧
        name = entry.statement.name := by
  have unchanged : c'.registry = c.registry → c.registry.get? name = some entry := by
    intro same
    rw [← same]
    exact found
  rcases moves.books_cases with books | books | ⟨books, _, _⟩ | ⟨text, h, before, after, books⟩
  · exact .inl (unchanged (registry_eq books))
  · exact .inl (unchanged (registry_eq books))
  · exact .inl (unchanged (registry_eq books))
  · have registry : c'.registry = c.registry.insert h.name ⟨text, h⟩ := registry_eq books
    -- the one name that was registered is that of the task's handle
    rw [registry, KeyMap.get?_insert] at found
    split at found
    · rename_i same
      cases found
      exact .inr ⟨text, before, after, same⟩
    · exact .inl found

/-- A task that moves stays compatible with the others. -/
theorem Moves.compatible {q : Progress} (compat : Compatible p q) (within : Within c.books q)
    (registered : ∀ name entry, c.registry.get? name = some entry →
      Compatible (.holding entry.statement) q) : Compatible p' q := by
  -- a handle that has just been made has a new number
  have fresh : ∀ (name : String) (st : Prepared) (h h' : Handle),
      some (⟨name, c.books.nextId, st⟩ : Handle) = some h → q.handle? = some h' → h.id = h'.id →
      h = h' := by
    intro name st h h' got got' same
    cases got
    have old := within.handle h' got'
    rw [← same] at old
    exact absurd old (Nat.lt_irrefl _)
  cases moves with
  | hit found books => exact registered _ _ (Registry.lookup_eq_hit found)
  | missed books => exact .of_none rfl
  | refused _ books => exact .of_none rfl
  | answered _ new books => exact .of_new rfl rfl new within.statement
  | numbered books => exact compat.onward rfl rfl (fresh _ _)
  | unregistered books => exact compat.onward rfl rfl (fresh _ _)
  | joined found books => exact registered _ _ (Registry.lookup_eq_hit found)
  | entered free books => exact compat.onward rfl rfl compat.handle
  | barred books => exact compat.onward rfl rfl compat.handle
  | @finished n result =>
    cases result with
    | ok h => exact compat.onward rfl rfl compat.handle
    | error e => exact .of_none rfl

end

/-! ## Entries -/

/-- An entry of the registry: some task holds its handle, and no task has given it back. -/
structure Backed (tasks : List Task) (name : String) (h : Handle) : Prop where
  name_eq : h.name = name
  held : ∃ t ∈ tasks, t.progress = .holding h
  kept : ∀ t ∈ tasks, t.progress ≠ .settled h

/-- A further task leaves an entry backed, unless it starts with the handle given back. -/
theorem Backed.concat {tasks : List Task} {name : String} {h : Handle}
    (backed : Backed tasks name h) {t : Task} (new : t.progress ≠ .settled h) :
    Backed (tasks ++ [t]) name h := by
  rcases backed.held with ⟨u, mem, holds⟩
  refine ⟨backed.name_eq, ⟨u, List.mem_append_left _ mem, holds⟩, ?_⟩
  intro v mem
  rcases List.mem_append.1 mem with mem | mem
  · exact backed.kept v mem
  · rw [List.mem_singleton] at mem
    subst mem
    exact new

/-- A change of a task that is not the one that holds the handle. -/
theorem Backed.set {tasks : List Task} {name : String} {h : Handle}
    (backed : Backed tasks name h) {i : Nat} {t t' : Task} (here : tasks[i]? = some t)
    (other : t.progress ≠ .holding h) (changed : t'.progress ≠ .settled h) :
    Backed (tasks.set i t') name h := by
  rcases backed.held with ⟨u, mem, holds⟩
  rcases List.getElem?_of_mem mem with ⟨j, at_j⟩
  -- the task that holds the handle is another one, and stays
  have ne : i ≠ j := by
    rintro rfl
    rw [here] at at_j
    cases at_j
    exact other holds
  refine ⟨backed.name_eq, ⟨u, ?_, holds⟩, ?_⟩
  · apply List.mem_of_getElem? (i := j)
    rw [List.getElem?_set_ne ne]
    exact at_j
  · intro v mem
    rcases List.mem_or_eq_of_mem_set mem with mem | rfl
    · exact backed.kept v mem
    · exact changed

/-- A task that goes on with its own handle now holds it, and nobody has given it back. -/
theorem Backed.of_entered {tasks : List Task} (apart : Apart tasks) {i : Nat}
    {name sql text : String} {h : Handle}
    (here : tasks[i]? = some ⟨name, sql, .preparing (.numbered text h)⟩) :
    Backed (tasks.set i ⟨name, sql, .holding h⟩) h.name h := by
  rcases List.getElem?_eq_some_iff.1 here with ⟨inside, _⟩
  refine ⟨rfl, ⟨_, List.mem_set inside _, rfl⟩, ?_⟩
  intro u mem settled
  rcases List.getElem?_of_mem mem with ⟨j, at_j⟩
  rw [List.getElem?_set] at at_j
  split at at_j
  · cases at_j
    cases settled
  · rename_i ne
    have compat := apart i j _ u ne here at_j
    -- whoever has given the handle back was returned it, but this task has yet to return it
    rw [settled] at compat
    rcases compat.statement h.statement h.statement rfl rfl rfl with ⟨_, returned, _⟩
    cases returned

/-! ## What a run keeps -/

namespace Traffic

/-- How many handles may still be made. -/
def awaited (s : Traffic) : Nat :=
  s.tasks.countP fun t => t.progress.awaitsNumber

theorem ite_eq_toNat (b : Bool) : (if b = true then 1 else 0) = b.toNat := by
  cases b with
  | true => rfl
  | false => rfl

/-- A task that awaits a number is counted. -/
theorem le_awaited {s : Traffic} {i : Nat} {t : Task} (here : s.tasks[i]? = some t) :
    t.progress.awaitsNumber.toNat ≤ s.awaited := by
  rcases List.getElem?_eq_some_iff.1 here with ⟨inside, rfl⟩
  rw [← ite_eq_toNat]
  exact List.boole_getElem_le_countP (p := fun t : Task => t.progress.awaitsNumber) inside

/-- Where a task is replaced, the numbers that it awaits are. -/
theorem awaited_set {s : Traffic} (c : Client) {i : Nat} {t : Task} (t' : Task)
    (here : s.tasks[i]? = some t) :
    awaited ⟨c, s.tasks.set i t'⟩ + t.progress.awaitsNumber.toNat =
      s.awaited + t'.progress.awaitsNumber.toNat := by
  have le := le_awaited here
  rcases List.getElem?_eq_some_iff.1 here with ⟨inside, rfl⟩
  have count : awaited ⟨c, s.tasks.set i t'⟩ = s.awaited -
      s.tasks[i].progress.awaitsNumber.toNat + t'.progress.awaitsNumber.toNat := by
    rw [← ite_eq_toNat, ← ite_eq_toNat]
    exact List.countP_set inside
  omega

/-- A further task awaits its own number. -/
theorem awaited_concat {s : Traffic} (c : Client) (t : Task) :
    awaited ⟨c, s.tasks ++ [t]⟩ = s.awaited + t.progress.awaitsNumber.toNat := by
  rw [awaited, List.countP_append, List.countP_singleton, ite_eq_toNat]
  rfl

end Traffic

/-- How many preparations are started. -/
def starts (actions : List Action) : Nat :=
  actions.countP fun a => match a with
    | .start _ _ => true
    | _ => false

/-- After so many started preparations: numbers do not come twice, tasks have only returned handles
in common, and every entry is backed. -/
structure Accounted (s : Traffic) (started : Nat) : Prop where
  budget : s.client.nextId.toNat + s.awaited ≤ started
  within : ∀ t ∈ s.tasks, Within s.client.books t.progress
  apart : Apart s.tasks
  backed : ∀ name entry, s.client.registry.get? name = some entry →
    Backed s.tasks name entry.statement

/-- A new client has no entry and no task. -/
theorem accounted_nil : Accounted {} 0 := by
  constructor
  · exact Nat.le_refl _
  · intro t mem
    cases mem
  · intro i j t u _ here _
    cases here
  · intro name entry found
    cases found

namespace Accounted

variable {s : Traffic} {started : Nat} (acc : Accounted s started)

include acc

/-- What is registered is numbered within the books, since some task holds it. -/
theorem registered_within {name : String} {entry : Registered Handle}
    (found : s.client.registry.get? name = some entry) :
    Within s.client.books (.holding entry.statement) := by
  rcases (acc.backed name entry found).held with ⟨t, mem, holds⟩
  rw [← holds]
  exact acc.within t mem

/-- A handle that some task holds, beside any task. -/
theorem compatible_holding {i : Nat} {t u : Task} {h : Handle} (here : s.tasks[i]? = some t)
    (holds : t.progress = .holding h) (mem : u ∈ s.tasks) :
    Compatible (.holding h) u.progress := by
  rcases List.getElem?_of_mem mem with ⟨j, at_j⟩
  by_cases same : i = j
  · subst same
    rw [here] at at_j
    cases at_j
    rw [holds]
    exact .holding_self h
  · rw [← holds]
    exact acc.apart i j t u same here at_j

/-- What is registered is compatible with every task, since it is held by one of them. -/
theorem registered_compatible {name : String} {entry : Registered Handle} {u : Task}
    (found : s.client.registry.get? name = some entry) (mem : u ∈ s.tasks) :
    Compatible (.holding entry.statement) u.progress := by
  rcases (acc.backed name entry found).held with ⟨t, held, holds⟩
  rcases List.getElem?_of_mem held with ⟨i, here⟩
  exact acc.compatible_holding here holds mem

/-- A new task, by the side of the same books. -/
theorem concat {c : Client} {t : Task} {more : Nat} (books : c.books = s.client.books)
    (fits : t.progress.awaitsNumber.toNat ≤ more) (within : Within s.client.books t.progress)
    (compat : ∀ u ∈ s.tasks, Compatible t.progress u.progress)
    (new : ∀ h, t.progress ≠ .settled h) : Accounted ⟨c, s.tasks ++ [t]⟩ (started + more) := by
  constructor
  · have budget := acc.budget
    rw [awaited_concat]
    show c.nextId.toNat + _ ≤ _
    rw [nextId_eq books]
    show s.client.nextId.toNat + _ ≤ _
    omega
  · intro u mem
    show Within c.books u.progress
    rw [books]
    rcases List.mem_append.1 mem with mem | mem
    · exact acc.within u mem
    · rw [List.mem_singleton] at mem
      subst mem
      exact within
  · exact acc.apart.concat compat
  · intro name entry found
    rw [registry_eq books] at found
    exact (acc.backed name entry found).concat (new _)

/-- A move of a task keeps the accounts. -/
theorem advance (few : started < 2 ^ 64) {i : Nat} {name sql : String} {p p' : Progress}
    {c : Client} (here : s.tasks[i]? = some ⟨name, sql, p⟩) (moves : Moves s.client p c p') :
    Accounted ⟨c, s.tasks.set i ⟨name, sql, p'⟩⟩ started := by
  have budget := acc.budget
  have mem : (⟨name, sql, p⟩ : Task) ∈ s.tasks := List.mem_of_getElem? here
  have room : p.awaitsNumber = true → s.client.nextId.toNat + 1 < 2 ^ 64 := by
    intro awaits
    have le : p.awaitsNumber.toNat ≤ s.awaited := le_awaited here
    rw [awaits, Bool.toNat_true] at le
    omega
  have later := moves.books_le room
  constructor
  · -- what the move takes from the numbers the task does not await any more
    have moved := moves.budget
    have count : awaited ⟨c, s.tasks.set i ⟨name, sql, p'⟩⟩ + p.awaitsNumber.toNat =
      s.awaited + p'.awaitsNumber.toNat := awaited_set c ⟨name, sql, p'⟩ here
    show c.nextId.toNat + _ ≤ _
    omega
  · intro u mem'
    rcases List.mem_or_eq_of_mem_set mem' with mem' | rfl
    · exact (acc.within u mem').mono later.1 later.2
    · exact moves.within room (acc.within _ mem) fun _ _ found => acc.registered_within found
  · apply acc.apart.set
    intro j u ne at_j
    have mem' := List.mem_of_getElem? at_j
    exact moves.compatible (acc.apart i j _ u ne.symm here at_j) (acc.within u mem')
      fun _ _ found => acc.registered_compatible found mem'
  · intro key entry found
    rcases moves.entry found with old | ⟨text, rfl, rfl, rfl⟩
    · -- the task that holds the handle of an old entry is another one, since this one still moves
      refine (acc.backed key entry old).set here ?_ (moves.ne_settled _)
      rintro rfl
      have none := moves.returned?_eq_none
      cases none
    · exact .of_entered acc.apart here

/-- The entry that giving a handle back removes is the entry of that very handle. -/
theorem removed {i : Nat} {name sql key : String} {h : Handle} {entry : Registered Handle}
    (here : s.tasks[i]? = some ⟨name, sql, .holding h⟩)
    (found : s.client.registry.get? key = some entry) (same : entry.statement.id = h.id) :
    entry.statement = h := by
  have compat := acc.registered_compatible found (List.mem_of_getElem? here)
  exact compat.handle _ _ rfl rfl same

/-- Giving a handle back keeps the accounts. -/
theorem giveBack {i : Nat} {name sql : String} {h : Handle} {c : Client}
    (here : s.tasks[i]? = some ⟨name, sql, .holding h⟩)
    (books : c.books = { s.client.books with
      registry := (s.client.registry.removeIf h.name (·.id == h.id)).2 }) :
    Accounted ⟨c, s.tasks.set i ⟨name, sql, .settled h⟩⟩ started := by
  constructor
  · have budget := acc.budget
    have count : awaited ⟨c, s.tasks.set i ⟨name, sql, .settled h⟩⟩ + 0 = s.awaited + 0 :=
      awaited_set c ⟨name, sql, .settled h⟩ here
    have nextId : c.nextId = s.client.nextId := nextId_eq books
    show c.nextId.toNat + _ ≤ _
    rw [nextId]
    omega
  · have later : ∀ p, Within s.client.books p → Within c.books p := by
      intro p within
      rw [books]
      exact ⟨within.statement, within.handle⟩
    intro u mem
    apply later
    rcases List.mem_or_eq_of_mem_set mem with mem | rfl
    · exact acc.within u mem
    · have within := acc.within _ (List.mem_of_getElem? here)
      exact ⟨within.statement, within.handle⟩
  · apply acc.apart.set
    intro j u ne at_j
    have compat := acc.apart i j _ u ne.symm here at_j
    exact ⟨compat.statement, compat.handle⟩
  · intro key entry found
    rw [registry_eq books] at found
    rcases Registry.get?_removeIf.1 found with ⟨old, stays⟩
    have backed := acc.backed key entry old
    -- the handle that is given back is not the one of an entry that stays
    have other : h ≠ entry.statement := by
      rintro rfl
      exact stays ⟨backed.name_eq.symm, beq_self_eq_true _⟩
    refine backed.set here ?_ ?_
    · intro same
      cases same
      exact other rfl
    · intro same
      cases same
      exact other rfl

/-- What the server will answer is not in the books. -/
theorem rescript {c : Client} (books : c.books = s.client.books) :
    Accounted ⟨c, s.tasks⟩ started := by
  constructor
  · show c.nextId.toNat + _ ≤ _
    rw [nextId_eq books]
    exact acc.budget
  · intro t mem
    show Within c.books t.progress
    rw [books]
    exact acc.within t mem
  · exact acc.apart
  · intro name entry found
    rw [registry_eq books] at found
    exact acc.backed name entry found

theorem mono {more : Nat} (le : started ≤ more) : Accounted s more :=
  ⟨Nat.le_trans acc.budget le, acc.within, acc.apart, acc.backed⟩

/-- Every action keeps the accounts; a start may take one number more. -/
theorem steps (few : started < 2 ^ 64) {a : Action} {s' : Traffic} (steps : s.Steps a s') :
    Accounted s' (started + starts [a]) := by
  cases steps with
  | start => exact acc.concat rfl (Nat.le_refl 1) (.of_none rfl) (fun _ _ => .of_none rfl) nofun
  | advance here moves => exact acc.advance few here moves
  | copy here books =>
    refine acc.concat books (Nat.zero_le _) (acc.within _ (List.mem_of_getElem? here)) ?_ nofun
    intro u mem
    exact acc.compatible_holding here rfl mem
  | giveBack here books => exact acc.giveBack here books
  | rescript books => exact acc.rescript books
  | idle => exact acc.mono (Nat.le_add_right _ _)

end Accounted

/-- As long as numbers last, every run keeps the accounts. -/
theorem accounted_run (actions : List Action) (few : starts actions < 2 ^ 64) :
    Accounted (run actions) (starts actions) := by
  induction actions using List.reverseRecOn with
  | nil => exact accounted_nil
  | append_singleton actions a ih =>
    have split : starts (actions ++ [a]) = starts actions + starts [a] := List.countP_append
    -- before the last action no more preparations were started
    have acc := ih (by omega)
    rw [run_concat, split]
    exact acc.steps (by omega) (steps_step _ a)

/-! ## Registered as long as held -/

namespace Accounted

variable {s : Traffic} {started : Nat} (acc : Accounted s started)

include acc

/-- No task has given back a handle on a registered statement. -/
theorem number_ne {name : String} {entry : Registered Handle} {t : Task} {h : Handle}
    (found : s.client.registry.get? name = some entry) (mem : t ∈ s.tasks)
    (settled : t.progress = .settled h) :
    h.statement.number ≠ entry.statement.statement.number := by
  intro same
  have compat := acc.registered_compatible found mem
  rw [settled] at compat
  rcases compat.statement _ _ rfl rfl same.symm with ⟨h', returned, returned'⟩
  cases returned
  cases returned'
  exact (acc.backed name entry found).kept t mem settled

/-- Giving a handle back leaves every entry alone but that of the handle itself. -/
theorem get?_giveBack {i : Nat} {name sql : String} {h : Handle}
    (here : s.tasks[i]? = some ⟨name, sql, .holding h⟩) (key : String) :
    (s.step (.giveBack i)).client.registry.get? key = s.client.registry.get? key ∨
      (∃ text, s.client.registry.get? key = some ⟨text, h⟩) ∧
        (s.step (.giveBack i)).client.registry.get? key = none := by
  have after : (s.step (.giveBack i)).client.registry =
      (s.client.registry.removeIf h.name (·.id == h.id)).2 := by
    show (s.giveBack i).client.registry = _
    rw [Traffic.giveBack, here]
    exact registry_eq (books_deallocate h s.client)
  rw [after]
  cases before : s.client.registry.get? key with
  | none =>
    left
    rw [Option.eq_none_iff_forall_ne_some]
    intro entry found
    rw [(Registry.get?_removeIf.1 found).1] at before
    cases before
  | some entry =>
    -- the entry is removed if it has the name and the number of the handle
    by_cases own : key = h.name ∧ (entry.statement.id == h.id) = true
    · right
      have same : entry.statement = h := acc.removed here before (beq_iff_eq.1 own.2)
      refine ⟨⟨entry.sql, by rw [← same]⟩, ?_⟩
      rw [Option.eq_none_iff_forall_ne_some]
      intro entry' found
      rcases Registry.get?_removeIf.1 found with ⟨before', stays⟩
      rw [before] at before'
      cases before'
      exact stays own
    · left
      exact Registry.get?_removeIf.2 ⟨before, own⟩

end Accounted

/-- As long as handles do not run out of numbers, and whatever the tasks do: of a registered
statement some task holds the handle, and no task has given one back; giving a handle back leaves
every entry alone but that of the handle itself; and when no task holds a handle, nothing is
registered. -/
theorem registered_as_long_as_held (actions : List Action) (few : starts actions < 2 ^ 64) :
    (∀ name entry, (run actions).client.registry.get? name = some entry →
      (∃ t ∈ (run actions).tasks, t.progress = .holding entry.statement) ∧
      ∀ t ∈ (run actions).tasks, ∀ h, t.progress = .settled h →
        h.statement.number ≠ entry.statement.statement.number) ∧
    (∀ i name sql h, (run actions).tasks[i]? = some ⟨name, sql, .holding h⟩ →
      ∀ key, ((run actions).step (.giveBack i)).client.registry.get? key =
          (run actions).client.registry.get? key ∨
        (∃ text, (run actions).client.registry.get? key = some ⟨text, h⟩) ∧
          ((run actions).step (.giveBack i)).client.registry.get? key = none) ∧
    ((∀ t ∈ (run actions).tasks, ∀ h, t.progress ≠ .holding h) →
      (run actions).client.registry.size = 0) := by
  have acc := accounted_run actions few
  refine ⟨?_, ?_, ?_⟩
  · intro name entry found
    exact ⟨(acc.backed name entry found).held, fun t mem h => acc.number_ne found mem⟩
  · intro i name sql h here key
    exact acc.get?_giveBack here key
  · intro none
    -- every entry would have a holder
    apply KeyMap.size_eq_zero
    intro name
    cases found : (run actions).client.registry.get? name with
    | none => rfl
    | some entry =>
      rcases (acc.backed name entry found).held with ⟨t, mem, holds⟩
      exact absurd holds (none t mem _)

/-- Two tasks share a statement; when the first has given it back, a third prepares the same SQL
anew under the same name, and the second still holds the old statement. -/
def renewal : List Action :=
  [.start "q" "SELECT 1", .advance 0, .advance 0, .advance 0, .advance 0,
    .start "q" "SELECT 1", .advance 1, .giveBack 0,
    .start "q" "SELECT 1", .advance 2, .advance 2, .advance 2, .advance 2]

/-- After that, the other two give back what they hold. -/
def windUp : List Action :=
  renewal ++ [.giveBack 1, .giveBack 2]

/-- The old statement is given back without a loss to the new one, which is gone with its own
handle. -/
theorem renewal_registered_as_long_as_held :
    starts renewal < 2 ^ 64 ∧
    ((run renewal).client.registry.get? "q" =
        some ⟨"SELECT 1", ⟨"q", 1, ⟨2, "SELECT 1", [], []⟩⟩⟩ ∧
      ∃ t ∈ (run renewal).tasks, t.progress = .holding ⟨"q", 1, ⟨2, "SELECT 1", [], []⟩⟩) ∧
    ((run renewal).tasks[1]? =
        some ⟨"q", "SELECT 1", .holding ⟨"q", 0, ⟨1, "SELECT 1", [], []⟩⟩⟩ ∧
      ((run renewal).step (.giveBack 1)).client.registry.get? "q" =
        (run renewal).client.registry.get? "q") ∧
    (starts windUp < 2 ^ 64 ∧ (run windUp).client.registry.size = 0) := by
  have few : starts renewal < 2 ^ 64 := by decide
  have entry : (run renewal).client.registry.get? "q" =
      some ⟨"SELECT 1", ⟨"q", 1, ⟨2, "SELECT 1", [], []⟩⟩⟩ := rfl
  have here : (run renewal).tasks[1]? =
      some ⟨"q", "SELECT 1", .holding ⟨"q", 0, ⟨1, "SELECT 1", [], []⟩⟩⟩ := rfl
  have kept := registered_as_long_as_held renewal few
  have fewAtEnd : starts windUp < 2 ^ 64 := by decide
  have tasks : (run windUp).tasks =
      [⟨"q", "SELECT 1", .settled ⟨"q", 0, ⟨1, "SELECT 1", [], []⟩⟩⟩,
        ⟨"q", "SELECT 1", .settled ⟨"q", 0, ⟨1, "SELECT 1", [], []⟩⟩⟩,
        ⟨"q", "SELECT 1", .settled ⟨"q", 1, ⟨2, "SELECT 1", [], []⟩⟩⟩] := rfl
  have emptied := (registered_as_long_as_held windUp fewAtEnd).2.2
  refine ⟨few, ⟨entry, (kept.1 _ _ entry).1⟩, ⟨here, ?_⟩, ⟨fewAtEnd, emptied ?_⟩⟩
  · rcases kept.2.1 1 _ _ _ here "q" with same | ⟨⟨text, own⟩, _⟩
    · exact same
    · rw [entry] at own
      cases own
  · intro t mem h holds
    rw [tasks] at mem
    simp only [List.mem_cons, List.not_mem_nil, or_false] at mem
    rcases mem with rfl | rfl | rfl
    · cases holds
    · cases holds
    · cases holds

end SqlCompose.Postgres
