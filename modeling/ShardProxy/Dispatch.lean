import ShardProxy.Executor.Response
import ShardProxy.Merge
import ShardProxy.Streaming

/-!
# The one answer to a command

What the shards answered is made into the single answer that the client sees. An error of a shard is
the answer; updates are added up; the rows of a query are merged, and the client's row stream is
started on them. What remains is answered as the first shard answered.

    reconcile statement [] stream = ([ok 1 0 0], stream)
-/

namespace ShardProxy.Dispatch

/-- The error that a response begins with. -/
def error? (r : ShardResponse) : Option ErrPacket :=
  match r.packets.head? with
  | some (.err p) => some p
  | _ => none

/-- The update that a response begins with. -/
def update? (r : ShardResponse) : Option OkPacket :=
  match r.packets.head? with
  | some (.ok p) => some p
  | _ => none

/-- Changed rows add up, and the first generated key that is not zero is kept. -/
def addUpdate (sum : UInt64 × UInt64) (p : OkPacket) : UInt64 × UInt64 :=
  (sum.1 + p.affectedRows, if sum.2 = 0 then p.lastInsertId else sum.2)

/-- The answer to a change of rows. -/
def mergeUpdates (responses : List ShardResponse) : Response :=
  let (affectedRows, lastInsertId) := (responses.filterMap update?).foldl addUpdate (0, 0)
  [.ok (.ofUpdate 1 affectedRows lastInsertId)]

/-- The result set of a response. -/
def resultSet (r : ShardResponse) : Except MergeError ShardRows :=
  match r.rows with
  | none => .error (.noResultSet r.dataSource)
  | some cursor => .ok (.ofResponse r.dataSource r.packets cursor)

/-- The result sets of the shards, if every shard has one. -/
def resultSets (responses : List ShardResponse) : Except MergeError (List ShardRows) :=
  responses.mapM resultSet

/-- The columns and the `eof` behind them, as packets that follow the one with number `sequenceId`, and the
number of the last. -/
def announceFrom (sequenceId : UInt32) : List ColumnDefinition → Response × UInt32
  | [] => ([.eof (.ofSequence (sequenceId + 1))], sequenceId + 1)
  | column :: columns =>
    let (packets, last) := announceFrom (sequenceId + 1) columns
    (.column ⟨sequenceId + 1, column⟩ :: packets, last)

/-- The packets that announce the merged rows, and the number of the last. -/
def announce (columns : List ColumnDefinition) : Response × UInt32 :=
  let (packets, last) := announceFrom 1 columns
  (.fieldCount ⟨1, columns.length⟩ :: packets, last)

/-- Merges the shards' rows under the columns of the first shard, and starts the stream on them. -/
def mergeRows (statement : Statement) (first : ShardResponse) (responses : List ShardResponse)
    (stream : RowStream Merged) : Except MergeError (Response × RowStream Merged) :=
  let columns := first.packets.columns
  match resultSets responses with
  | .error e => .error e
  | .ok shards =>
    (Merge.merge shards statement).map fun rows =>
      let (packets, last) := announce columns
      (packets, stream.activate rows (columns.map (·.type)) last)

/-- The answer to a statement whose shards all answered without an error. -/
def answer (statement : Statement) (responses : List ShardResponse) (stream : RowStream Merged) :
    Response × RowStream Merged :=
  match responses with
  | [] => ([.ok (.ofUpdate 1 0 0)], stream)
  | first :: _ =>
    if statement.type = .dml then (mergeUpdates responses, stream)
    else if statement.type.producesRows ∧ (update? first).isNone then
      match mergeRows statement first responses stream with
      | .ok (packets, stream) => (packets, stream)
      | .error e => ([.err (e.packet 1)], stream)
    else (first.packets, stream)

/-- The single answer to a command, and the row stream behind it. -/
def reconcile (statement : Statement) (responses : List ShardResponse) (stream : RowStream Merged) :
    Response × RowStream Merged :=
  match responses.findSome? error? with
  | some p => ([.err p], stream)
  | none => answer statement responses stream

end ShardProxy.Dispatch
