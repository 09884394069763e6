import ShardProxy.Resources

/-!
# Streaming rows to a client

The row stream of one command. It is moved row by row, hands out a packet for each, and holds the
command's resources until it can produce no more rows: at the end of the rows, at an error and when
it is closed it releases them. Behind the last row there is one more packet, the terminator.

    active --(end)--> exhausted --(terminator)--> closed        active --(error, close)--> closed
-/

namespace ShardProxy

/-- Where a row stream stands. -/
inductive StreamState (σ : Type)
  /-- The command produced no merged rows. -/
  | inactive
  | active (rows : σ)
  /-- The last row has been handed out; the terminator is still to come. -/
  | exhausted
  | closed

namespace StreamState

variable {σ : Type}

def name : StreamState σ → String
  | inactive => "Inactive"
  | active _ => "Active"
  | exhausted => "Exhausted"
  | closed => "Closed"

def isActive : StreamState σ → Bool
  | active _ => true
  | _ => false

end StreamState

/-- A row stream: the sequence id of the packet handed out last, the types that rows are read as, and
the resources that the rows depend on. -/
structure RowStream (σ : Type) where
  sequenceId : UInt32
  types : List ColumnType
  state : StreamState σ
  resources : Resources

namespace RowStream

variable {σ : Type}

/-- A stream that was never started. -/
def idle : RowStream σ := ⟨0, [], .inactive, .empty⟩

def columnCount (r : RowStream σ) : Nat := r.types.length

/-- Starts to stream rows. `sequenceId` is that of the packet sent last. -/
def activate (r : RowStream σ) (rows : σ) (types : List ColumnType) (sequenceId : UInt32) :
    RowStream σ :=
  { r with sequenceId, types, state := .active rows }

/-- The calls that release the resources, and the stream without them in a state. -/
def releaseInto (r : RowStream σ) (state : StreamState σ) : List Call × RowStream σ :=
  let (calls, resources) := r.resources.release
  (calls, { r with resources, state })

/-- Releases the resources and ends the stream. -/
def close (r : RowStream σ) : List Call × RowStream σ := r.releaseInto .closed

theorem state_close (r : RowStream σ) : r.close.2.state = .closed := rfl

theorem isEmpty_releaseInto (r : RowStream σ) (state : StreamState σ) :
    (r.releaseInto state).2.resources.isEmpty = true := r.resources.isEmpty_release

/-- What moving a stream leads to: whether a packet is to be fetched, and the calls on the way. -/
structure Moved (σ : Type) where
  outcome : Except ProxyError Bool
  calls : List Call
  stream : RowStream σ

/-- Moves to the next row. Behind the last row there is still the terminator to be fetched. -/
def hasMore [RowSource σ] (r : RowStream σ) : Moved σ :=
  match r.state with
  | .active rows =>
    match RowSource.next rows with
    | (.ok true, rows) => ⟨.ok true, [], { r with state := .active rows }⟩
    | (.ok false, _) =>
      let (calls, r) := r.releaseInto .exhausted
      ⟨.ok true, calls, r⟩
    | (.error e, _) =>
      let (calls, r) := r.close
      ⟨.error (.merge e), calls, r⟩
  | _ =>
    let (calls, r) := r.close
    ⟨.ok false, calls, r⟩

/-- The packet for a row, which is an error if one of its columns cannot be read. -/
def rowPacket [RowSource σ] (rows : σ) (types : List ColumnType) (sequenceId : UInt32) : Packet :=
  match RowSource.read rows types with
  | .ok values => .row ⟨sequenceId, values, types⟩
  | .error e => .err (e.packet sequenceId)

/-- The packet for the place where the stream stands: a row, an error in its place, or an end. -/
def nextPacket [RowSource σ] (r : RowStream σ) : Packet × RowStream σ :=
  let sequenceId := r.sequenceId + 1
  match r.state with
  | .active rows => (rowPacket rows r.types sequenceId, { r with sequenceId })
  | .exhausted => (.eof (.ofSequence sequenceId), { r with sequenceId, state := .closed })
  | _ => (.eof (.ofSequence sequenceId), { r with sequenceId })

instance : Inspect (RowStream σ) where
  inspect r := Inspect.record "StreamingCursor"
    [("sequence_id", inspect r.sequenceId), ("column_types", inspect r.types),
      ("state", r.state.name), ("resources", inspect r.resources)]

end RowStream

end ShardProxy
