/-! # Objects and pools

An object has data and may hold handles on other objects.  It is lent out by a pool and comes back
to it: idle objects are parked in their pool, up to a limit.  Whoever refers to an object, a handle
or the pool in which it is parked, is counted; an object is destroyed with its last reference.

There are three kinds of handle.  A pooled one is on loan from a pool.  A shared one is one of
possibly several on an object of a pool.  A plain one is a reference that no pool knows of, such as
a detached object or a further reference to a pooled one.
-/

namespace SqlCompose.Pool

/-- A handle on an object, with the pool that the object comes back to. -/
inductive Handle where
  | pooled (pool object : Nat)
  | shared (pool object : Nat)
  | plain (object : Nat)
  deriving DecidableEq

def Handle.object : Handle → Nat
  | pooled _ i => i
  | shared _ i => i
  | plain i => i

/-- What pools lend out. -/
structure Object where
  data : List Int := []
  /-- Handles that the object holds. -/
  nested : List Handle := []
  /-- The number of handles and pools that refer to the object; none once it is destroyed. -/
  references : Nat := 0
  deriving DecidableEq, Inhabited

/-- What happens to an object, for the log. -/
inductive Event where
  | created (object : Nat)
  | recycled (object : Nat)
  | filled (object : Nat)
  | destroyed (object : Nat)
  deriving DecidableEq

/-- Objects are known by their number in the order of creation, from one. -/
def label (object : Nat) : String :=
  toString (object + 1)

def Event.text : Event → String
  | created i => "new " ++ label i
  | recycled i => "recycle " ++ label i
  | filled i => "fill " ++ label i
  | destroyed i => "free " ++ label i

structure FreeList where
  /-- The parked objects, the one parked last at the end. -/
  idle : List Nat := []
  /-- How many objects are kept. -/
  maxIdle : Nat
  deriving DecidableEq, Inhabited

def FreeList.text (p : FreeList) : String :=
  "Pool \x7b idle: " ++ toString p.idle.length ++ ", max_idle: " ++ toString p.maxIdle ++ " \x7d"

/-- All objects that were ever created, and the pools. -/
structure Store where
  objects : List Object := []
  pools : List FreeList
  log : List Event := []

namespace Store

/-- Pools without objects that keep so many each. -/
def withLimits (limits : List Nat) : Store where
  pools := limits.map fun n => { maxIdle := n }

def object (s : Store) (i : Nat) : Object :=
  s.objects[i]?.getD {}

def setObject (s : Store) (i : Nat) (o : Object) : Store :=
  { s with objects := s.objects.set i o }

def pool (s : Store) (p : Nat) : FreeList :=
  s.pools[p]?.getD { maxIdle := 0 }

def setPool (s : Store) (p : Nat) (f : FreeList) : Store :=
  { s with pools := s.pools.set p f }

def note (s : Store) (e : Event) : Store :=
  { s with log := s.log ++ [e] }

/-- An object in words: its number and its data. -/
def text (s : Store) (i : Nat) : String :=
  "Item(" ++ label i ++ ", [" ++ ", ".intercalate ((s.object i).data.map toString) ++ "])"

end Store

end SqlCompose.Pool
