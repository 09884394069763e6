import ShardProxy.Proofs.Dispatch.Reconciliation

/-!
# A result set that is announced is streamed

An answer that announces a result set comes with a row stream that was started on the merged rows of
all shards, and every row and an end, or the failure, are streamed:

    fieldCount, column …, eof        then        row …, row, eof

Only a statement that neither changes rows nor asks for them is answered by what the first shard
announced, without a stream.
-/

namespace ShardProxy

open RowSource

namespace RowStream

variable {σ : Type} [RowSource σ]

/-- A packet for each row is fetched, the first numbered `n`, and then the terminator, or the failure
that the rows end with. Either closes the stream. -/
inductive Plays (r : RowStream σ) (n : Nat) (rows : List Row) : Except MergeError Bool → Prop
  | ended {body : List Packet} {t : RowStream σ} :
      List.Forall₂ (fun q p => q.1.reading.Packs r.types (.ofNat q.2) p) (rows.zipIdx n) body →
      Streams r (body ++ [.eof (.ofSequence (.ofNat (n + rows.length)))]) t → t.state = .closed →
        Plays r n rows (.ok false)
  | failed {body : List Packet} {t : RowStream σ} {e : MergeError} :
      List.Forall₂ (fun q p => q.1.reading.Packs r.types (.ofNat q.2) p) (rows.zipIdx n) body →
      Fetches r body t → t.hasMore.outcome = .error (.merge e) → t.hasMore.stream.state = .closed →
        Plays r n rows (.error e)

theorem plays_of_finishes {r : RowStream σ} {source : σ} (hr : r.state = .active source) {n : Nat}
    (hid : r.sequenceId = .ofNat n) {outcome : Except MergeError Bool} (hne : outcome ≠ .ok true)
    {rows : List Row} (h : Finishes outcome source (rows.map Row.reading)) :
    Plays r (n + 1) rows outcome := by
  match outcome with
  | .ok true => exact absurd rfl hne
  | .ok false =>
    obtain ⟨body, t, hbody, hs, hclosed⟩ := exists_streams hr h hid
    rw [List.zipIdx_map, List.forall₂_map_left_iff] at hbody
    rw [List.length_map] at hs
    exact .ended hbody hs hclosed
  | .error e =>
    obtain ⟨last, hd, hlast⟩ := h
    obtain ⟨body, t, hbody, hf, hstate, -⟩ := exists_fetches hd hr hid
    rw [List.zipIdx_map, List.forall₂_map_left_iff] at hbody
    obtain ⟨houtcome, hclosed⟩ := hasMore_of_error hstate hlast
    exact .failed hbody hf houtcome hclosed

end RowStream

namespace Dispatch

variable {statement : Statement} {responses : List ShardResponse} {stream : RowStream Merged}

/-- Merged rows have the columns that the first shard announced. -/
def mergedColumns (responses : List ShardResponse) : List ColumnDefinition :=
  (responses.head?.map (·.packets.columns)).getD []

/-- The row stream is started on the merged rows of all responses, behind the announcement of their
columns. -/
structure Merges (statement : Statement) (responses : List ShardResponse)
    (stream : RowStream Merged) (m : Merged) : Prop where
  rows : ∀ r ∈ responses, r.rows.isSome
  merged : Merge.merge (rowsOf responses) statement = .ok m
  announced : (reconcile statement responses stream).1 = .ofColumns (mergedColumns responses)
  started : (reconcile statement responses stream).2 =
    stream.activate m ((mergedColumns responses).map (·.type)) (Response.lastId (mergedColumns responses))

/-- A query whose first shard did not answer with an update is refused, or its rows are merged. -/
theorem refuses_or_merges (hne : responses ≠ []) (herror : Errorless responses)
    (htype : statement.type = .dql ∨ statement.type = .dal)
    (hfirst : ∀ first ∈ responses.head?, ∀ p, first.packets.head? ≠ some (.ok p))
    (stream : RowStream Merged) :
    (∃ p, reconcile statement responses stream = ([.err p], stream)) ∨
      ∃ m, Merges statement responses stream m := by
  obtain ⟨first, rest, rfl⟩ := List.exists_cons_of_ne_nil hne
  have hfirst := hfirst first rfl
  rcases unmerged_or_merged statement (first :: rest) with ⟨e, he⟩ | ⟨hrows, m, hm⟩
  · exact .inl ⟨_, reconcile_of_settles (.unmerged herror htype hfirst he) stream⟩
  · have heq := reconcile_eq_of_merge stream (producesRows_iff.mpr htype)
      (fun r hr => error?_eq_none_iff.mpr (herror r hr)) (update?_eq_none_iff.mpr hfirst) hrows hm
    exact .inr ⟨m, hrows, hm, by rw [heq]; rfl, by rw [heq]; rfl⟩

/-- An answer that announces a result set is that of merged rows, or that of the first shard. -/
theorem merges_or_passes (herror : Errorless responses) {p : FieldCountPacket}
    (hhead : (reconcile statement responses stream).1.head? = some (.fieldCount p)) :
    (∃ m, Merges statement responses stream m) ∨
      (statement.type = .ddl ∨ statement.type = .tcl ∨ statement.type = .dcl) ∧
        ∃ first ∈ responses.head?, reconcile statement responses stream = (first.packets, stream) := by
  cases responses with
  | nil => cases hhead
  | cons first rest =>
    by_cases hdml : statement.type = .dml
    · simp only [reconcile, findSome?_error?_eq_none herror, answer, if_pos hdml] at hhead
      cases hhead
    by_cases htype : statement.type = .dql ∨ statement.type = .dal
    · by_cases hfirst : ∃ q, first.packets.head? = some (.ok q)
      · have hpassed := reconcile_of_settles (.passed herror hdml fun _ => hfirst) stream
        obtain ⟨q, hq⟩ := hfirst
        rw [hpassed, hq] at hhead
        cases hhead
      · have hfirst : ∀ f ∈ (first :: rest).head?, ∀ q, f.packets.head? ≠ some (.ok q) := by
          rintro f ⟨⟩
          exact not_exists.mp hfirst
        rcases refuses_or_merges (List.cons_ne_nil _ _) herror htype hfirst stream with ⟨q, hq⟩ | hm
        · rw [hq] at hhead
          cases hhead
        · exact .inl hm
    · have hother : statement.type = .ddl ∨ statement.type = .tcl ∨ statement.type = .dcl := by
        cases ht : statement.type <;> simp_all
      exact .inr ⟨hother, first, rfl,
        reconcile_of_settles (.passed herror hdml fun h => absurd h htype) stream⟩

/-- A row stream is started, or stays as it was. -/
theorem merges_or_leaves (statement : Statement) (responses : List ShardResponse)
    (stream : RowStream Merged) :
    (∃ m, Merges statement responses stream m) ∨ (reconcile statement responses stream).2 = stream := by
  by_cases hdml : statement.type = .dml
  · right
    unfold reconcile
    split
    · rfl
    · cases responses with
      | nil => rfl
      | cons first rest => simp only [answer, if_pos hdml]
  have hsettled : (∃ packets, Settles statement responses packets) ∨ _ :=
    settles_or_merged fun h => absurd h hdml
  rcases hsettled with ⟨packets, hsettles⟩ |
    ⟨first, rest, m, rfl, herror, htype, hfirst, -, -⟩
  · right
    rw [reconcile_of_settles hsettles]
  · have hfirst : ∀ f ∈ (first :: rest).head?, ∀ p, f.packets.head? ≠ some (.ok p) := by
      rintro f ⟨⟩
      exact hfirst
    rcases refuses_or_merges (List.cons_ne_nil _ _) herror htype hfirst stream with ⟨p, hp⟩ | hmerges
    · right
      rw [hp]
    · exact .inl hmerges

theorem Merges.plays {m : Merged} (h : Merges statement responses stream m) :
    ∃ outcome rows, Finishes outcome m (rows.map Row.reading) ∧
      (∀ row ∈ rows, ∃ s ∈ rowsOf responses, row ∈ s.cursor.rows) ∧
      (reconcile statement responses stream).2.Plays ((mergedColumns responses).length + 3) rows
        outcome := by
  obtain ⟨outcome, rows, hne, hf, hmem⟩ := Merge.exists_finishes h.merged
  have hid : (reconcile statement responses stream).2.sequenceId =
      .ofNat ((mergedColumns responses).length + 2) := by
    rw [h.started]
    rfl
  have hstate : (reconcile statement responses stream).2.state = .active m := by
    rw [h.started]
    rfl
  exact ⟨outcome, rows, hf, hmem, RowStream.plays_of_finishes hstate hid hne hf⟩

/-- No result set of a query is dropped, and none is announced without its rows: a query whose first
shard did not answer with an update is refused or started on the rows of all its shards, an answer that
announces a result set is one of these or what the first shard of another statement announced, and what
is started is streamed to its end. -/
theorem reconcile_announces (herror : Errorless responses) (stream : RowStream Merged) :
    (responses ≠ [] → statement.type = .dql ∨ statement.type = .dal →
      (∀ first ∈ responses.head?, ∀ p, first.packets.head? ≠ some (.ok p)) →
        (∃ p, reconcile statement responses stream = ([.err p], stream)) ∨
          ∃ m, Merges statement responses stream m) ∧
    (∀ p, (reconcile statement responses stream).1.head? = some (.fieldCount p) →
      (∃ m, Merges statement responses stream m) ∨
        (statement.type = .ddl ∨ statement.type = .tcl ∨ statement.type = .dcl) ∧
          ∃ first ∈ responses.head?, reconcile statement responses stream = (first.packets, stream)) ∧
    ∀ m, Merges statement responses stream m →
      ∃ outcome rows, Finishes outcome m (rows.map Row.reading) ∧
        (∀ row ∈ rows, ∃ s ∈ rowsOf responses, row ∈ s.cursor.rows) ∧
        (reconcile statement responses stream).2.Plays ((mergedColumns responses).length + 3) rows
          outcome :=
  ⟨fun hne htype hfirst => refuses_or_merges hne herror htype hfirst stream,
    fun _ hhead => merges_or_passes herror hhead, fun _ h => h.plays⟩

/-- The two rows and the announcement of `numberResponses` are streamed. -/
theorem reconcile_announces_numbers :
    ∃ m outcome rows,
      Merges (.ofType .dql) [numberResponses.1, numberResponses.2] .idle m ∧
      (reconcile (.ofType .dql) [numberResponses.1, numberResponses.2] .idle).2.Plays 4 rows
        outcome := by
  have herror : Errorless [numberResponses.1, numberResponses.2] := fun r hr =>
    error?_eq_none_iff.mp (by revert r; decide)
  have hfirst : ∀ first ∈ [numberResponses.1, numberResponses.2].head?,
      ∀ p, first.packets.head? ≠ some (.ok p) := by
    rintro first ⟨⟩
    exact update?_eq_none_iff.mp rfl
  have hquery : (Statement.ofType .dql).type = .dql ∨ (Statement.ofType .dql).type = .dal := .inl rfl
  obtain ⟨hmerges, -, hplays⟩ := reconcile_announces herror .idle
  rcases hmerges (List.cons_ne_nil _ _) hquery hfirst with ⟨p, hp⟩ | ⟨m, hm⟩
  · have hhead := congrArg (·.1.head?) hp
    cases hhead
  · obtain ⟨outcome, rows, -, -, hstreams⟩ := hplays m hm
    exact ⟨m, outcome, rows, hm, hstreams⟩

/-- Other statements than queries, and queries that the first shard answered with an update, are
answered without the rows that a shard has. -/
theorem reconcile_drops :
    let rows := numberResponses.2
    let update := ShardResponse.ofOutcome "ds_0" (.update 1 0)
    rows.rows.isSome ∧
      (reconcile (.ofType .ddl) [rows] .idle).1.head? = some (.fieldCount ⟨1, 1⟩) ∧
      (reconcile (.ofType .ddl) [rows] .idle).2.state.isActive = false ∧
      reconcile (.ofType .dml) [rows] .idle = ([.ok (.ofUpdate 1 0 0)], .idle) ∧
      reconcile (.ofType .dal) [update, rows] .idle = (update.packets, .idle) :=
  ⟨rfl, rfl, rfl, rfl, rfl⟩

end Dispatch

end ShardProxy
