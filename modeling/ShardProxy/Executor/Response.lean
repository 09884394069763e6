import ShardProxy.Sources

/-!
# Responses

What one unit of a command answered. An update and a result set make the packets that announce them;
an error that a backend reports is a response too.
-/

namespace ShardProxy

/-- What a unit answered: its packets and, for a result set, the cursor on its rows. -/
structure ShardResponse where
  dataSource : String
  packets : Response
  rows : Option Cursor
deriving DecidableEq

namespace ShardResponse

/-- The response that an outcome makes. -/
def ofOutcome (dataSource : String) : Outcome → ShardResponse
  | .update affectedRows lastInsertId =>
    ⟨dataSource, [.ok (.ofUpdate 1 affectedRows lastInsertId)], none⟩
  | .rows columns cursor => ⟨dataSource, Response.ofColumns columns, some cursor⟩
  | .failure e => ⟨dataSource, [.err (e.packet 1)], none⟩

instance : Inspect ShardResponse where
  inspect r := Inspect.record "ShardResponse"
    [("data_source", inspect r.dataSource), ("packets", r.packets.inspectAll),
      ("rows", inspect r.rows.isSome)]

end ShardResponse

namespace PreparedUnit

/-- What the unit's backend does. -/
def script (u : PreparedUnit) : Script := u.statement.source.script

/-- The response that executing the unit makes. -/
def response (u : PreparedUnit) : ShardResponse := .ofOutcome u.dataSource u.script.outcome

end PreparedUnit

end ShardProxy
