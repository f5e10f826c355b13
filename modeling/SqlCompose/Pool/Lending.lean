import SqlCompose.Pool.Release

/-! # Lending

What holders of handles do with pools and objects: take an object, change it, nest a handle in it,
share it, and let go of it.  An object is changed through a handle only while nothing else refers to
it, and no longer once it is shared.
-/

namespace SqlCompose.Pool

/-- Actions on objects and pools. -/
abbrev Lending := StateM Store

/-- Make an object, to which one handle refers. -/
def create : Lending Nat := do
  let s ← get
  let i := s.objects.length
  set ({ s.note (.created i) with objects := s.objects ++ [{ references := 1 }] } : Store)
  return i

/-- Take the object parked last in a pool, or make one. -/
def take (p : Nat) : Lending Nat := do
  let f := (← get).pool p
  match f.idle.getLast? with
  | some i =>
    modify (·.setPool p { f with idle := f.idle.dropLast })
    return i
  | none => create

def acquire (p : Nat) : Lending Handle :=
  return .pooled p (← take p)

def drop (h : Handle) : Lending Unit :=
  modify (·.drop h)

/-- One more reference to the object of a handle. -/
def retain (h : Handle) : Lending Unit :=
  modify fun s =>
    let o := s.object h.object
    s.setObject h.object { o with references := o.references + 1 }

/-- Change the data of an object to which nothing else refers. -/
def Store.update (s : Store) (i : Nat) (f : List Int → List Int) : Store :=
  let o := s.object i
  if o.references = 1 then s.setObject i { o with data := f o.data } else s

/-- Change the data of an object through its only handle.  What is shared stays as it was filled. -/
def change (h : Handle) (f : List Int → List Int) : Lending Unit :=
  match h with
  | .shared _ _ => pure ()
  | h => modify (·.update h.object f)

/-- Let the object of a handle hold another handle. -/
def nest (h child : Handle) : Lending Unit :=
  modify fun s =>
    let o := s.object h.object
    s.setObject h.object { o with nested := o.nested ++ [child] }

/-- Take an object out of the care of its pool. -/
def detach (h : Handle) : Handle :=
  .plain h.object

/-- Take an object to which nothing else refers, and start sharing it with data made from its own.
The answer has the handle and the data found in the object. -/
def share (p : Nat) (fill : List Int → List Int) : Lending (Handle × List Int) := do
  let parked ← take p
  let i ←
    if ((← get).object parked).references = 1 then pure parked
    else do
      let fresh ← create
      drop (.plain parked)
      pure fresh
  let found := ((← get).object i).data
  modify fun s => (s.note (.filled i)).update i fill
  return (.shared p i, found)

def clone (h : Handle) : Lending Handle := do
  retain h
  return h

/-- A reference to the object of a handle that no pool knows of. -/
def copy (h : Handle) : Lending Handle := do
  retain h
  return .plain h.object

/-- Limit the number of objects that a pool keeps; those parked beyond it lose that reference. -/
def setMaxIdle (p limit : Nat) : Lending Unit :=
  modify fun s =>
    let f := s.pool p
    (s.setPool p ⟨f.idle.take limit, limit⟩).performAll
      ((f.idle.drop limit).map fun i => .drop (.plain i))

end SqlCompose.Pool
