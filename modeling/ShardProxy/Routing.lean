import ShardProxy.Error
import ShardProxy.Statement

/-!
# Routing

Where a statement runs. Under sharding the text and its parameters decide which units it is split
into. Otherwise each statement runs on one data source as it is, which its kind decides: the usual
split sends reads to a replica.
-/

namespace ShardProxy

/-- How a proxy decides where a statement runs. -/
inductive Routing
  | sharding (router : String → List Value → Except ProxyError Route)
  /-- The statement is judged by its text, and placed by its kind. -/
  | masterSlave (place : SqlType → String) (judge : String → Except ProxyError Statement)

namespace Routing

/-- The route of a statement under its parameters. -/
def route (r : Routing) (sql : String) (parameters : List Value) : Except ProxyError Route :=
  match r with
  | sharding router => router sql parameters
  | masterSlave place judge => (judge sql).map fun s => ⟨s, [⟨place s.type, sql⟩]⟩

/-- Reads go to the slave, everything else to the master. -/
def splitReads (master slave : String) (type : SqlType) : String :=
  if type = .dql then slave else master

/-- The entry of a statement in a table by texts. -/
def entry {α : Type} (table : List (String × Except ProxyError α)) (sql : String) :
    Except ProxyError α :=
  (table.lookup sql).getD (.error (.routing ("no entry for " ++ sql)))

instance : Inspect Routing where
  inspect
    | sharding _ => "Sharding"
    | masterSlave _ _ => "MasterSlave"

end Routing

end ShardProxy
