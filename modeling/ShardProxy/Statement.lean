import ShardProxy.Text.Inspect

/-!
# Statements and routes

What a merge has to know of a statement: its kind, the columns it is ordered by, and the part of the
merged rows it asks for. A route is a statement with the units that run it, each a data source and
the SQL to run on it.
-/

namespace ShardProxy

/-- The kind of a statement. -/
inductive SqlType
  /-- Queries. -/
  | dql
  /-- Changes of rows. -/
  | dml
  /-- Changes of the schema. -/
  | ddl
  /-- Transaction control. -/
  | tcl
  /-- Administration, such as listing tables. -/
  | dal
  /-- Rights. -/
  | dcl
deriving DecidableEq, Repr

namespace SqlType

/-- Every kind, in order. -/
def all : List SqlType := [dql, dml, ddl, tcl, dal, dcl]

/-- The name in packets and diagnostic text. -/
def name : SqlType → String
  | dql => "Dql"
  | dml => "Dml"
  | ddl => "Ddl"
  | tcl => "Tcl"
  | dal => "Dal"
  | dcl => "Dcl"

/-- The name in messages to a client. -/
def sqlName : SqlType → String
  | dql => "DQL"
  | dml => "DML"
  | ddl => "DDL"
  | tcl => "TCL"
  | dal => "DAL"
  | dcl => "DCL"

/-- The kind with this name in packets. -/
def ofName? (s : String) : Option SqlType := all.find? (·.name == s)

/-- The kind with this name in messages. -/
def ofSqlName? (s : String) : Option SqlType := all.find? (·.sqlName == s)

/-- What is said of a text that names no kind. -/
def unknownName : String := "Matching variant not found"

/-- Kinds whose shards answer with rows to be merged. -/
def producesRows : SqlType → Bool
  | dql | dal => true
  | _ => false

end SqlType

/-- The direction of an ordering column. -/
inductive Direction
  | asc
  | desc
deriving DecidableEq, Repr

namespace Direction

def name : Direction → String
  | asc => "Asc"
  | desc => "Desc"

def ofName? (s : String) : Option Direction :=
  if s = "Asc" then some asc else if s = "Desc" then some desc else none

end Direction

/-- An ordering column, by its position in the projection; the first has position 1. -/
structure OrderItem where
  index : Nat
  direction : Direction
deriving DecidableEq, Repr

/-- The part of the merged rows that is returned: from `offset` on, at most `rowCount` of them. -/
structure Pagination where
  offset : UInt64
  rowCount : Option UInt64
deriving DecidableEq

/-- A classified statement. -/
structure Statement where
  type : SqlType
  /-- An insertion, whose generated keys are asked for. -/
  insert : Bool
  orderBy : List OrderItem
  pagination : Option Pagination
deriving DecidableEq

namespace Statement

/-- A statement of a kind, without order and pagination. -/
def ofType (type : SqlType) : Statement := ⟨type, false, [], none⟩

/-- An insertion. -/
def insertion : Statement := { ofType .dml with insert := true }

end Statement

/-- One call of a backend: where it goes and what it says. -/
structure ExecutionUnit where
  dataSource : String
  sql : String
deriving DecidableEq

/-- A statement and the units that run it. Without units there is nothing to do. -/
structure Route where
  statement : Statement
  units : List ExecutionUnit
deriving DecidableEq

namespace Route

def isEmpty (r : Route) : Bool := r.units.isEmpty

end Route

end ShardProxy
