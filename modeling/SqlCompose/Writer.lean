import SqlCompose.Text.Split
import SqlCompose.Text.Marker
import SqlCompose.Value.Basic
import SqlCompose.Error

/-! # Writers

A `Writer` gathers the text of a statement and the values bound in it: the flat arguments, in the
order of their markers, and one group of arguments per row of a multi-row INSERT.  A `Mark`
remembers how far a writer had got; text and arguments written since can be read or taken back.
Using a mark that lies outside what is written, or inside a character, is an error and not a cut
somewhere else.

A `Rendering` is an action on a writer that may fail.  What had been written when it fails stays.
-/

namespace SqlCompose

/-- Text and bound values under construction. -/
structure Writer where
  text : String := ""
  /-- The flat arguments. -/
  args : List Value := []
  /-- The argument groups of the rows of a multi-row INSERT. -/
  groups : List (List Value) := []
  deriving Inhabited

/-- How far a writer had got: octets of text and flat arguments. -/
structure Mark where
  text : Nat
  args : Nat

namespace Writer

def isEmpty (w : Writer) : Bool :=
  w.text.isEmpty

def reset (w : Writer) : Writer :=
  { w with text := "", args := [], groups := [] }

def put (w : Writer) (text : String) : Writer :=
  { w with text := w.text ++ text }

/-- Bind values, without writing markers for them. -/
def bindAll (w : Writer) (values : List Value) : Writer :=
  { w with args := w.args ++ values }

def addGroup (w : Writer) (group : List Value) : Writer :=
  { w with groups := w.groups ++ [group] }

/-- Write texts with a separator between. -/
def join (w : Writer) (items : List String) (separator : String) : Writer :=
  w.put (separator.intercalate items)

/-- Replace the markers by the placeholders of a dialect. -/
def setPlaceholders (w : Writer) (dialect : Dialect) : Writer :=
  { w with text := numberMarkers dialect.placeholder w.text }

def mark (w : Writer) : Mark :=
  ⟨(utf8 w.text).length, w.args.length⟩

/-- The text written since a mark. -/
def textSince? (w : Writer) (m : Mark) : Option String :=
  (splitText? w.text m.text).map (·.2)

/-- Take back the text written since a mark; arguments stay. -/
def cutText? (w : Writer) (m : Mark) : Option Writer :=
  (splitText? w.text m.text).map fun parts => { w with text := parts.1 }

/-- Move the flat arguments bound since a mark into a group of their own. -/
def groupSince? (w : Writer) (m : Mark) : Option Writer :=
  if m.args ≤ w.args.length then
    some { w with args := w.args.take m.args, groups := w.groups ++ [w.args.drop m.args] }
  else none

end Writer

/-- An action on a writer that may fail, keeping what it had written. -/
abbrev Rendering := EStateM SqlError Writer

namespace Rendering

def put (text : String) : Rendering Unit :=
  modify (·.put text)

def bindAll (values : List Value) : Rendering Unit :=
  modify (·.bindAll values)

/-- Do one after another, writing a separator between. -/
def separated (separator : String) : List (Rendering Unit) → Rendering Unit
  | [] => pure ()
  | [r] => r
  | r :: rest => do
    r
    put separator
    separated separator rest

def mark : Rendering Mark :=
  return (← get).mark

def textSince (m : Mark) : Rendering String := do
  match (← get).textSince? m with
  | some text => return text
  | none => throw .lostMark

def cutText (m : Mark) : Rendering Unit := do
  match (← get).cutText? m with
  | some w => set w
  | none => throw .lostMark

/-- Move the arguments bound since a mark into a group. -/
def groupSince (m : Mark) : Rendering Unit := do
  match (← get).groupSince? m with
  | some w => set w
  | none => throw .lostMark

end Rendering

end SqlCompose
