/-! # Placeholder markers

A statement is assembled with the marker `??` wherever a bound value is referenced, whatever the
database.  `cutAtMarkers` cuts a text at its markers, found from the left and not overlapping, and
`numberMarkers` puts the `k`-th placeholder of a database in place of the `k`-th marker.
-/

namespace SqlCompose

/-- What stands for a bound value in dialect-neutral text. -/
def marker : String := "??"

/-- The text before the first marker, and the texts that follow each of the markers. -/
def cutAtMarkers : List Char → List Char × List (List Char)
  | '?' :: '?' :: rest => ([], (cutAtMarkers rest).1 :: (cutAtMarkers rest).2)
  | c :: rest => (c :: (cutAtMarkers rest).1, (cutAtMarkers rest).2)
  | [] => ([], [])

def markerCount (text : String) : Nat :=
  (cutAtMarkers text.toList).2.length

/-- Segments behind one another, the placeholder of a number in front of each, counting on from
`k`. -/
def joinNumbered (placeholder : Nat → List Char) : Nat → List (List Char) → List Char
  | _, [] => []
  | k, segment :: rest => placeholder k ++ segment ++ joinNumbered placeholder (k + 1) rest

/-- The text with its markers replaced by placeholders numbered from one. -/
def numberMarkers (placeholder : Nat → List Char) (text : String) : String :=
  let (first, rest) := cutAtMarkers text.toList
  String.ofList (first ++ joinNumbered placeholder 1 rest)

/-- The placeholder syntaxes of databases. -/
inductive Dialect where
  | generic
  | mysql
  | postgres
  deriving DecidableEq, Repr, Inhabited

namespace Dialect

def name : Dialect → String
  | generic => "generic"
  | mysql => "mysql"
  | postgres => "postgres"

/-- The dialect of a name; some have several. -/
def ofName? : String → Option Dialect
  | "generic" => some generic
  | "mysql" | "mariadb" => some mysql
  | "postgres" | "postgresql" | "pg" => some postgres
  | _ => none

/-- The `k`-th placeholder: numbered for PostgreSQL, a question mark elsewhere. -/
def placeholder : Dialect → Nat → List Char
  | postgres, k => '$' :: Nat.toDigits 10 k
  | _, _ => ['?']

end Dialect

end SqlCompose
