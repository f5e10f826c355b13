import SqlCompose.KeyMap
import SqlCompose.Stmt.Basic

/-! # Inputs of the builder

What builder calls are given: data for tables, columns and values, and queries for conditions.
-/

namespace SqlCompose

/-- Columns with what they are set to or compared with. -/
abbrev ColumnMap := KeyMap Operand

/-- Input for a table, columns or values. -/
inductive Data where
  /-- No input; only the kind of the statement is set. -/
  | nothing
  | table (name : String)
  /-- A record: its table, its columns and its values. -/
  | record (r : Record)
  /-- A record type: its table and its columns. -/
  | recordType (t : RecordType)
  /-- Values by column. -/
  | map (m : ColumnMap)
  /-- Values by position. -/
  | row (values : List Operand)
  /-- A sub-statement. -/
  | stmt (s : Stmt)

def Data.shape : Data → InputShape
  | nothing => .nothing
  | table _ => .table
  | record _ => .record
  | recordType _ => .recordType
  | map _ => .map
  | row _ => .row
  | stmt _ => .statement

inductive Query where
  | cond (c : Cond)
  | conds (cs : List Cond)
  /-- An equality for every column, in key order. -/
  | map (m : ColumnMap)

/-- A query of raw text. -/
def Query.text (sql : String) : Query :=
  .cond (.raw sql)

/-- The condition that a column equals an operand; none if the operand is a sub-statement. -/
def Operand.equality? (column : String) : Operand → Option Cond
  | .value v => some (.eq column v)
  | .expr e => some (.expr (column ++ " = " ++ e.sql) e.args)
  | .stmt _ => none

/-- The conditions that a query puts forward. -/
def Query.conditions : Query → List Cond
  | cond c => [c]
  | conds cs => cs
  | map m => m.entries.filterMap fun (column, operand) => operand.equality? column

/-- The columns that a query compares with sub-statements. -/
def Query.statementColumns : Query → List String
  | map m => (m.entries.filter fun (column, operand) => (operand.equality? column).isNone).map (·.1)
  | _ => []

end SqlCompose
