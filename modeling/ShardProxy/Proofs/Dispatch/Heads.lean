import ShardProxy.Proofs.Dispatch.Reconciliation

/-!
# The head of a result set, from shard to client

The columns that a backend returns are announced twice: by its unit, and again to the client for the
merged rows. Between the two they are read off the packets. What is announced is read back, and announced
in the same packets:

    (ofColumns columns).columns = columns          announce columns = (ofColumns columns, number of its last)
-/

namespace ShardProxy

namespace Response

/-- The packets that announce a result set with these columns: their count, each column in its place and
an end, numbered from 1 on. -/
structure Announces (r : Response) (columns : List ColumnDefinition) : Prop where
  packets : r = .fieldCount ⟨1, columns.length⟩ ::
    ((columns.zipIdx 2).map (fun c => .column ⟨.ofNat c.2, c.1⟩) ++
      [.eof (.ofSequence (.ofNat (columns.length + 2)))])
  numbers : r.map (·.sequenceId.toNat) = List.range' 1 (columns.length + 2)
  columns : r.columns = columns

theorem announces_ofColumns {columns : List ColumnDefinition} (h : columns.length < 2 ^ 32 - 2) :
    (ofColumns columns).Announces columns where
  packets := ofColumns_eq columns
  numbers := toNat_sequenceIds_ofColumns (by omega)
  columns := columns_ofColumns columns

/-- The last packet of an announcement is the end, with the last number. -/
theorem Announces.getLast? {r : Response} {columns : List ColumnDefinition} (h : r.Announces columns) :
    r.getLast? = some (.eof (.ofSequence (lastId columns))) := by
  rw [h.packets, ← List.cons_append, List.getLast?_concat]
  rfl

end Response

namespace ShardRows

/-- A result set with these columns, found at their indexes from 1 on and at no other. -/
structure Resolves (s : ShardRows) (columns : List ColumnDefinition) : Prop where
  count : s.columnCount = columns.length
  column : ∀ (i : Nat) (c : ColumnDefinition), columns[i]? = some c →
    s.column (i + 1) = .ok c ∧ s.columnLabel (i + 1) = .ok c.label ∧ s.columnType (i + 1) = .ok c.type
  stray : ∀ index, index = 0 ∨ columns.length < index →
    s.column index = .error (.noColumn index s.dataSource columns.length) ∧
      s.columnLabel index = .error (.noColumn index s.dataSource columns.length) ∧
      s.columnType index = .error (.noColumn index s.dataSource columns.length)

/-- A result set resolves the columns of the answer that it was made of. -/
theorem resolves_ofResponse (dataSource : String) {r : Response} {columns : List ColumnDefinition}
    (h : r.columns = columns) (cursor : Cursor) : (ofResponse dataSource r cursor).Resolves columns := by
  subst h
  refine ⟨rfl, fun i c hc => ?_, fun index hindex => ?_⟩
  · have hcolumn : (ofResponse dataSource r cursor).column (i + 1) = .ok c := by
      have hsome : (if i + 1 = 0 then none
          else (ofResponse dataSource r cursor).columns[i + 1 - 1]?) = some c := by
        rw [if_neg (Nat.succ_ne_zero i)]
        exact hc
      rw [column, hsome]
    refine ⟨hcolumn, ?_, ?_⟩
    · rw [columnLabel, hcolumn]
      rfl
    · rw [columnType, hcolumn]
      rfl
  · have hcolumn : (ofResponse dataSource r cursor).column index =
        .error (.noColumn index dataSource r.columns.length) := by
      have hnone : (if index = 0 then none
          else (ofResponse dataSource r cursor).columns[index - 1]?) = none := by
        split
        · rfl
        · exact List.getElem?_eq_none (show r.columns.length ≤ index - 1 by omega)
      rw [column, hnone]
      rfl
    refine ⟨hcolumn, ?_, ?_⟩
    · rw [columnLabel, hcolumn]
      rfl
    · rw [columnType, hcolumn]
      rfl

end ShardRows

namespace Dispatch

variable {statement : Statement} {first : ShardResponse} {responses : List ShardResponse}
  {stream stream' : RowStream Merged} {packets : Response}

/-- Merged rows are announced by the columns of the first shard, and the row stream goes on behind the
last packet of the announcement. -/
theorem announced_of_mergeRows (h : mergeRows statement first responses stream = .ok (packets, stream')) :
    packets = .ofColumns first.packets.columns ∧
      stream'.sequenceId = Response.lastId first.packets.columns ∧
      stream'.types = first.packets.columns.map (·.type) ∧ stream'.state.isActive = true := by
  unfold mergeRows at h
  cases hsets : resultSets responses with
  | error e =>
    rw [hsets] at h
    cases h
  | ok shards =>
    cases hmerge : Merge.merge shards statement with
    | error e =>
      rw [hsets] at h
      simp only [hmerge] at h
      cases h
    | ok m =>
      rw [hsets] at h
      simp only [hmerge, announce_eq, Except.map] at h
      obtain ⟨rfl, rfl⟩ := Prod.mk.inj (Except.ok.inj h)
      exact ⟨rfl, rfl, rfl, rfl⟩

/-- The columns that a backend returns, from the packets of its unit to those that the client sees. The
unit's packets announce them and are read back to them, the shard's result set resolves them at their
indexes, and merged rows behind this shard are announced by its very packets: the row stream is then at
the number of the last of them, and has their types. -/
theorem heads_agree (u : PreparedUnit) {columns : List ColumnDefinition} {cursor : Cursor}
    (hrows : u.script.outcome = .rows columns cursor) (hn : columns.length < 2 ^ 32 - 2) :
    u.response.packets.Announces columns ∧ u.response.rows = some cursor ∧
    (ShardRows.ofResponse u.dataSource u.response.packets cursor).Resolves columns ∧
    ∀ (statement : Statement) (rest : List ShardResponse) (stream : RowStream Merged)
      (packets : Response) (stream' : RowStream Merged),
      mergeRows statement u.response (u.response :: rest) stream = .ok (packets, stream') →
        packets = u.response.packets ∧
        packets.getLast?.map (·.sequenceId) = some stream'.sequenceId ∧
        stream'.types = columns.map (·.type) ∧ stream'.state.isActive = true ∧
        (statement.type = .dql ∨ statement.type = .dal → (∀ r ∈ rest, error? r = none) →
          reconcile statement (u.response :: rest) stream = (packets, stream')) := by
  rw [PreparedUnit.response_of_rows hrows]
  have hannounces := Response.announces_ofColumns hn
  refine ⟨hannounces, rfl, ShardRows.resolves_ofResponse _ hannounces.columns cursor, ?_⟩
  intro statement rest stream packets stream' hmerge
  obtain ⟨hpackets, hnumber, htypes, hactive⟩ := announced_of_mergeRows hmerge
  rw [hannounces.columns] at hpackets hnumber htypes
  refine ⟨hpackets, ?_, htypes, hactive, fun htype herror => ?_⟩
  · rw [hpackets, hannounces.getLast?, hnumber]
    rfl
  · exact reconcile_of_mergeRows (producesRows_iff.mpr htype) (List.forall_mem_cons.mpr ⟨rfl, herror⟩)
      rfl hmerge

/-- A unit whose backend returns two columns, merged with the rows of another shard. -/
theorem heads_agree_named :
    let columns := [ColumnDefinition.ofName "id" .longLong, ColumnDefinition.ofName "name" .varString]
    let unit : PreparedUnit :=
      ⟨"ds_0", ⟨⟨0, "ds_0", .yielding (.rows columns (.ofRows [[.int 2, .text "b"]] none))⟩, 0⟩⟩
    let other : PreparedUnit :=
      ⟨"ds_1", ⟨⟨1, "ds_1", .yielding (.rows columns (.ofRows [[.int 1, .text "a"]] none))⟩, 1⟩⟩
    ∃ packets stream',
      mergeRows (.ofType .dql) unit.response [unit.response, other.response] .idle = .ok (packets, stream') ∧
        packets = unit.response.packets ∧ unit.response.packets.Announces columns ∧
        stream'.sequenceId = 4 := by
  intro columns unit other
  obtain ⟨packets, stream', hmerge, hnumber⟩ : ∃ packets stream',
      mergeRows (.ofType .dql) unit.response [unit.response, other.response] .idle = .ok (packets, stream') ∧
        stream'.sequenceId = 4 := ⟨_, _, rfl, rfl⟩
  obtain ⟨hannounces, -, -, hall⟩ := heads_agree unit rfl (by decide)
  exact ⟨packets, stream', hmerge, (hall _ _ _ _ _ hmerge).1, hannounces, hnumber⟩

end Dispatch

end ShardProxy
