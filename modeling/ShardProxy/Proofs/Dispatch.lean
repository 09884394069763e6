import ShardProxy.Dispatch
import ShardProxy.Proofs.Executor.Response
import ShardProxy.Proofs.Merge.Extent
import ShardProxy.Proofs.Merge.Transparency
import ShardProxy.Proofs.Streaming

/-!
# The packets that answer a query

A query whose shards all answered with rows is answered by the columns of the first shard, a packet
for each merged row and a terminator, numbered one after the other from 1 on:

    fieldCount, column …, column, eof, row or err, …, row or err, eof        (reconcile_streams)
-/

namespace ShardProxy

open RowSource

namespace Response

theorem toNat_sequenceIds_ofColumns {columns : List ColumnDefinition}
    (h : columns.length + 2 < 2 ^ 32) :
    (ofColumns columns).map (·.sequenceId.toNat) = List.range' 1 (columns.length + 2) := by
  have small : ∀ k, k ≤ columns.length + 2 → (UInt32.ofNat k).toNat = k := by
    intro k hk
    exact UInt32.toNat_ofNat_of_lt' (Nat.lt_of_le_of_lt hk h)
  have hid : ∀ c ∈ columns.zipIdx 2, (UInt32.ofNat c.2).toNat = c.2 := by
    intro c hc
    have hlt := List.snd_lt_add_of_mem_zipIdx hc
    exact small c.2 (by omega)
  have hcolumns : ((columns.zipIdx 2).map fun c => (UInt32.ofNat c.2).toNat) =
      List.range' 2 columns.length := by
    rw [List.map_congr_left hid, List.zipIdx_map_snd]
  have hlast : (UInt32.ofNat (columns.length + 2)).toNat = 2 + columns.length := by
    rw [small _ (Nat.le_refl _), Nat.add_comm]
  rw [ofColumns_eq, List.map_cons, List.map_append, List.map_map, List.range'_succ,
    List.range'_1_concat, ← hcolumns, ← hlast]
  rfl

end Response

namespace Dispatch

/-- The result sets of responses, those without one left out. -/
def rowsOf (responses : List ShardResponse) : List ShardRows :=
  responses.filterMap fun r => r.rows.map (.ofResponse r.dataSource r.packets)

theorem resultSets_eq_ok {responses : List ShardResponse} (h : ∀ r ∈ responses, r.rows.isSome) :
    resultSets responses = .ok (rowsOf responses) := by
  induction responses with
  | nil => rfl
  | cons r responses ih =>
    obtain ⟨cursor, hr⟩ := Option.isSome_iff_exists.mp (h r List.mem_cons_self)
    have ih := ih fun r hr => h r (List.mem_cons_of_mem _ hr)
    have hcons : rowsOf (r :: responses) =
        .ofResponse r.dataSource r.packets cursor :: rowsOf responses := by
      rw [rowsOf, List.filterMap_cons, hr]
      rfl
    unfold resultSets at ih ⊢
    rw [List.mapM_cons, ih, resultSet, hr, hcons]
    rfl

theorem announceFrom_eq (sequenceId : UInt32) (columns : List ColumnDefinition) :
    announceFrom sequenceId columns = (Response.columnPackets (sequenceId + 1) columns,
      sequenceId + .ofNat (columns.length + 1)) := by
  induction columns generalizing sequenceId with
  | nil => rfl
  | cons column columns ih =>
    have hlast : sequenceId + 1 + .ofNat (columns.length + 1) =
        sequenceId + .ofNat ((column :: columns).length + 1) := by
      rw [List.length_cons, UInt32.ofNat_add (columns.length + 1) 1, UInt32.add_assoc, UInt32.add_comm 1]
      rfl
    rw [announceFrom, ih, hlast]
    rfl

/-- Merged rows are announced by the packets by which a shard announces the same columns. -/
theorem announce_eq (columns : List ColumnDefinition) :
    announce columns = (.ofColumns columns, Response.lastId columns) := by
  have hlast : (1 : UInt32) + .ofNat (columns.length + 1) = Response.lastId columns := by
    rw [Response.lastId, UInt32.add_comm]
    exact (UInt32.ofNat_add (columns.length + 1) 1).symm
  rw [announce, announceFrom_eq, hlast]
  rfl

/-- A query whose first shard announced a result set, and no shard an error, is answered by the merge. -/
theorem reconcile_of_mergeRows {statement : Statement} {first : ShardResponse}
    {rest : List ShardResponse} {stream stream' : RowStream Merged} {packets : Response}
    (htype : statement.type.producesRows) (herror : ∀ r ∈ first :: rest, error? r = none)
    (hupdate : update? first = none)
    (h : mergeRows statement first (first :: rest) stream = .ok (packets, stream')) :
    reconcile statement (first :: rest) stream = (packets, stream') := by
  have hdml : statement.type ≠ .dml := fun h => by rw [h] at htype; cases htype
  rw [reconcile, List.findSome?_eq_none_iff.mpr herror]
  simp only [answer, if_neg hdml, hupdate, Option.isNone_none, and_true, htype, if_true, h]

/-- The answer to a query whose result sets are merged: the columns of the first shard, with a stream
of the merged rows. -/
theorem reconcile_eq_of_merge {statement : Statement} {first : ShardResponse}
    {rest : List ShardResponse} (stream : RowStream Merged) (htype : statement.type.producesRows)
    (herror : ∀ r ∈ first :: rest, error? r = none) (hupdate : update? first = none)
    (hrows : ∀ r ∈ first :: rest, r.rows.isSome) {m : Merged}
    (hm : Merge.merge (rowsOf (first :: rest)) statement = .ok m) :
    reconcile statement (first :: rest) stream =
      (.ofColumns first.packets.columns,
        stream.activate m (first.packets.columns.map (·.type)) (Response.lastId first.packets.columns)) := by
  refine reconcile_of_mergeRows htype herror hupdate ?_
  simp only [mergeRows, resultSets_eq_ok hrows, hm, Except.map, announce_eq]

/-- A query whose shards all have rows that can be merged is answered by the head of the first shard's
result set, a packet for each row that is merged and one terminator, with consecutive numbers; a row
with a column that cannot be read is an error in its place, and the rows behind it still come. -/
theorem reconcile_streams {statement : Statement} {first : ShardResponse} {rest : List ShardResponse}
    (stream : RowStream Merged) (htype : statement.type = .dql ∨ statement.type = .dal)
    (herror : ∀ r ∈ first :: rest, error? r = none) (hupdate : update? first = none)
    (hrows : ∀ r ∈ first :: rest, r.rows.isSome) {m : Merged}
    (hm : Merge.merge (rowsOf (first :: rest)) statement = .ok m) (hf : NeverFails m)
    (hn : first.packets.columns.length + 2 < 2 ^ 32) :
    ∃ (rows : List Row) (body : Response) (t : RowStream Merged),
      Drained m (rows.map Row.reading) ∧
      (∀ row ∈ rows, ∃ s ∈ rowsOf (first :: rest), row ∈ s.cursor.rows) ∧
      (reconcile statement (first :: rest) stream).1 =
        .fieldCount ⟨1, first.packets.columns.length⟩ ::
          ((first.packets.columns.zipIdx 2).map (fun c => .column ⟨.ofNat c.2, c.1⟩) ++
            [.eof (.ofSequence (.ofNat (first.packets.columns.length + 2)))]) ∧
      (reconcile statement (first :: rest) stream).1.map (·.sequenceId.toNat) =
        List.range' 1 (first.packets.columns.length + 2) ∧
      List.Forall₂
        (fun q p => q.1.reading.Packs (first.packets.columns.map (·.type)) (.ofNat q.2) p)
        (rows.zipIdx (first.packets.columns.length + 3)) body ∧
      RowStream.Streams (reconcile statement (first :: rest) stream).2
        (body ++ [.eof (.ofSequence (.ofNat (first.packets.columns.length + 3 + rows.length)))]) t ∧
      t.hasMore.outcome = .ok false := by
  have hproduces : statement.type.producesRows := by
    rcases htype with h | h <;> rw [h] <;> rfl
  obtain ⟨rows, hd, hmem⟩ := Merge.exists_rows hm hf
  rw [reconcile_eq_of_merge stream hproduces herror hupdate hrows hm]
  obtain ⟨body, t, hbody, hs, hclosed⟩ := RowStream.exists_streams
    (r := stream.activate m (first.packets.columns.map (·.type)) (Response.lastId first.packets.columns))
    rfl hd (n := first.packets.columns.length + 2) rfl
  rw [List.zipIdx_map, List.forall₂_map_left_iff] at hbody
  rw [List.length_map] at hs
  exact ⟨rows, body, t, hd, hmem, Response.ofColumns_eq _, Response.toNat_sequenceIds_ofColumns hn,
    hbody, hs, (RowStream.hasMore_of_closed hclosed).1⟩

/-- The answers of two shards to a query for numbers, the first with a row that holds none. -/
def numberResponses : ShardResponse × ShardResponse :=
  let columns := [ColumnDefinition.ofName "id" .longLong]
  (.ofOutcome "ds_0" (.rows columns (.ofRows [[.int 1], [.text "x"]] none)),
    .ofOutcome "ds_1" (.rows columns (.ofRows [[.int 3]] none)))

theorem reconcile_streams_numbers :
    ∃ (rows : List Row) (body : Response) (t : RowStream Merged),
      List.Forall₂ (fun q p => q.1.reading.Packs [.longLong] (.ofNat q.2) p) (rows.zipIdx 4) body ∧
      RowStream.Streams
        (reconcile (.ofType .dql) [numberResponses.1, numberResponses.2] .idle).2
        (body ++ [.eof (.ofSequence (.ofNat (4 + rows.length)))]) t ∧
      t.hasMore.outcome = .ok false := by
  let shards := rowsOf [numberResponses.1, numberResponses.2]
  have hcursors : ∀ s ∈ shards, s.cursor.Unfailing := fun s hs =>
    Cursor.unfailing_of_failAt_none (by revert s; decide)
  have hd : Drained (MergedRows.concat ⟨shards⟩) (Merge.readings shards).flatten :=
    (Concat.drained (Merge.drained_readings hcursors)).map (f := MergedRows.concat) (fun _ => rfl) fun _ => rfl
  have hmerge : Merge.merge shards (.ofType .dql) = .ok (.all (.concat ⟨shards⟩)) := rfl
  obtain ⟨rows, body, t, -, -, -, -, hbody, hs, hend⟩ :=
    reconcile_streams .idle (.inl rfl) (by decide) (by decide) (by decide) hmerge
      (Merge.paginate_drained hd (.ofType .dql)).neverFails (by decide)
  exact ⟨rows, body, t, hbody, hs, hend⟩

end Dispatch

end ShardProxy
