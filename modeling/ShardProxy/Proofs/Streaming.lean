import ShardProxy.Proofs.Lists
import ShardProxy.Proofs.Rows
import ShardProxy.Streaming

/-!
# The packets of a row stream

`Fetches r packets t`: the stream `r` says each time that there is a packet, and fetching them gives
`packets` and leaves `t`. `Streams r packets t`: at `t` the stream then says that there is none. Over
rows that do not fail it gives one packet for each row and the terminator, numbered one after the
other, and a row that cannot be read is an error in its place:

    Drained rows rs   →   Streams (active rows) (a packet for each of rs, eof) closed    (exists_streams)
-/

namespace ShardProxy

open RowSource

/-! ## The packet of a row -/

/-- The packets that may stand for a row: its columns, one for each type, or the error of the first
column that cannot be read. -/
inductive Reading.Packs (r : Reading) (types : List ColumnType) (sequenceId : UInt32) : Packet → Prop
  | row {values : Row} :
      List.Forall₂ (fun t v => r (t.2 + 1) t.1 = .ok v) types.zipIdx values →
        Packs r types sequenceId (.row ⟨sequenceId, values, types⟩)
  | err {readable rest : List (ColumnType × Nat)} {t : ColumnType × Nat} {e : MergeError} :
      types.zipIdx = readable ++ t :: rest →
        (∀ c ∈ readable, ∃ v, r (c.2 + 1) c.1 = .ok v) → r (t.2 + 1) t.1 = .error e →
          Packs r types sequenceId (.err (e.packet sequenceId))

namespace RowStream

variable {σ : Type} [RowSource σ]

theorem packs_rowPacket (rows : σ) (types : List ColumnType) (sequenceId : UInt32) :
    Reading.Packs (value rows) types sequenceId (rowPacket rows types sequenceId) := by
  unfold rowPacket
  split
  · next values h => exact .row (forall₂_of_mapM_eq_ok h)
  · next e h =>
    obtain ⟨readable, t, rest, hs, hr, he⟩ := exists_of_mapM_eq_error h
    exact .err hs hr he

/-! ## Fetching packets -/

/-- Packets are fetched one after the other, each when there is more. -/
inductive Fetches : RowStream σ → List Packet → RowStream σ → Prop
  | nil (r : RowStream σ) : Fetches r [] r
  | cons {r t : RowStream σ} {packets : List Packet} : r.hasMore.outcome = .ok true →
      Fetches r.hasMore.stream.nextPacket.2 packets t →
        Fetches r (r.hasMore.stream.nextPacket.1 :: packets) t

/-- While there is more, the next packet is fetched. -/
inductive Streams : RowStream σ → List Packet → RowStream σ → Prop
  | done {r : RowStream σ} : r.hasMore.outcome = .ok false → Streams r [] r.hasMore.stream
  | fetch {r t : RowStream σ} {packets : List Packet} : r.hasMore.outcome = .ok true →
      Streams r.hasMore.stream.nextPacket.2 packets t →
        Streams r (r.hasMore.stream.nextPacket.1 :: packets) t

theorem Fetches.streams {r t u : RowStream σ} {packets rest : List Packet} (h : Fetches r packets t)
    (hs : Streams t rest u) : Streams r (packets ++ rest) u := by
  induction h with
  | nil => exact hs
  | cons hmore _ ih => exact .fetch hmore (ih hs)

/-- A stream moved to a row fetches its packet. -/
theorem Fetches.row {r t : RowStream σ} {rows rows' : σ} {packets : List Packet}
    (hr : r.state = .active rows) (hn : next rows = (.ok true, rows'))
    (h : Fetches { r with state := .active rows', sequenceId := r.sequenceId + 1 } packets t) :
    Fetches r (rowPacket rows' r.types (r.sequenceId + 1) :: packets) t := by
  have hmore : r.hasMore = ⟨.ok true, [], { r with state := .active rows' }⟩ := by
    simp only [hasMore, hr, hn]
  have hnext : r.hasMore.stream.nextPacket =
      (rowPacket rows' r.types (r.sequenceId + 1),
        { r with state := .active rows', sequenceId := r.sequenceId + 1 }) := by
    rw [hmore]
    rfl
  have hpacket : rowPacket rows' r.types (r.sequenceId + 1) = r.hasMore.stream.nextPacket.1 := by
    rw [hnext]
  rw [hpacket]
  exact .cons (by rw [hmore]) (by rw [hnext]; exact h)

/-- Over rows that are delivered a packet is fetched for each, numbered from the stream's number on. -/
theorem exists_fetches {r : RowStream σ} {rows rows' : σ} {rs : List Reading}
    (hd : Delivers rows rs rows') (hr : r.state = .active rows) {n : Nat}
    (hid : r.sequenceId = .ofNat n) :
    ∃ body t, List.Forall₂ (fun q p => q.1.Packs r.types (.ofNat q.2) p) (rs.zipIdx (n + 1)) body ∧
      Fetches r body t ∧ t.state = .active rows' ∧ t.sequenceId = .ofNat (n + rs.length) := by
  induction hd generalizing r n with
  | nil rows => exact ⟨[], r, .nil, .nil r, hr, hid⟩
  | @cons rows moved rows' rs hn _ ih =>
    have hid' : r.sequenceId + 1 = .ofNat (n + 1) := by
      rw [hid]
      exact (UInt32.ofNat_add n 1).symm
    obtain ⟨body, t, hbody, hf, hstate, hlast⟩ :=
      ih (r := { r with state := .active moved, sequenceId := r.sequenceId + 1 }) rfl hid'
    refine ⟨rowPacket moved r.types (.ofNat (n + 1)) :: body, t, .cons (packs_rowPacket _ _ _) hbody,
      ?_, hstate, ?_⟩
    · rw [← hid']
      exact Fetches.row hr hn hf
    · rw [hlast, List.length_cons]
      congr 1
      omega

/-! ## The end -/

theorem hasMore_of_closed {r : RowStream σ} (hr : r.state = .closed) :
    r.hasMore.outcome = .ok false ∧ r.hasMore.stream.state = .closed := by
  have h : r.hasMore = ⟨.ok false, r.close.1, r.close.2⟩ := by simp only [hasMore, hr]
  rw [h]
  exact ⟨rfl, r.state_close⟩

/-- Behind the last row the terminator is fetched, and then there is no more. -/
theorem Streams.terminator {r : RowStream σ} {rows : σ} (hr : r.state = .active rows)
    (hn : (next rows).1 = .ok false) :
    ∃ t, Streams r [.eof (.ofSequence (r.sequenceId + 1))] t ∧ t.state = .closed := by
  rcases hrows : next rows with ⟨outcome, rows'⟩
  obtain rfl : outcome = .ok false := by rw [← hn, hrows]
  have hmore : r.hasMore = ⟨.ok true, (r.releaseInto .exhausted).1, (r.releaseInto .exhausted).2⟩ := by
    simp only [hasMore, hr, hrows]
  have hnext : r.hasMore.stream.nextPacket =
      (.eof (.ofSequence (r.sequenceId + 1)),
        { (r.releaseInto .exhausted).2 with sequenceId := r.sequenceId + 1, state := .closed }) := by
    rw [hmore]
    rfl
  have hpacket : .eof (.ofSequence (r.sequenceId + 1)) = r.hasMore.stream.nextPacket.1 := by
    rw [hnext]
  obtain ⟨hdone, hclosed⟩ := hasMore_of_closed (r := r.hasMore.stream.nextPacket.2) (by rw [hnext])
  rw [hpacket]
  exact ⟨_, .fetch (by rw [hmore]) (.done hdone), hclosed⟩

/-- A move that fails is told, and ends the stream. -/
theorem hasMore_of_error {r : RowStream σ} {rows : σ} {e : MergeError} (hr : r.state = .active rows)
    (hn : (next rows).1 = .error e) :
    r.hasMore.outcome = .error (.merge e) ∧ r.hasMore.stream.state = .closed := by
  rcases hrows : next rows with ⟨outcome, rows'⟩
  obtain rfl : outcome = .error e := by rw [← hn, hrows]
  have hmore : r.hasMore = ⟨.error (.merge e), r.close.1, r.close.2⟩ := by
    simp only [hasMore, hr, hrows]
  rw [hmore]
  exact ⟨rfl, r.state_close⟩

/-- Over rows that are delivered: a packet for each, numbered from the stream's number on, and the
terminator. -/
theorem exists_streams {r : RowStream σ} {rows : σ} (hr : r.state = .active rows)
    {rs : List Reading} (hd : Drained rows rs) {n : Nat} (hid : r.sequenceId = .ofNat n) :
    ∃ body t, List.Forall₂ (fun q p => q.1.Packs r.types (.ofNat q.2) p) (rs.zipIdx (n + 1)) body ∧
      Streams r (body ++ [.eof (.ofSequence (.ofNat (n + 1 + rs.length)))]) t ∧ t.state = .closed := by
  obtain ⟨rows', hdelivers, hend⟩ := hd
  obtain ⟨body, t, hbody, hf, hstate, hlast⟩ := exists_fetches hdelivers hr hid
  obtain ⟨u, hu, hclosed⟩ := Streams.terminator hstate hend
  have hnumber : t.sequenceId + 1 = .ofNat (n + 1 + rs.length) := by
    rw [hlast, Nat.add_right_comm]
    exact (UInt32.ofNat_add (n + rs.length) 1).symm
  rw [hnumber] at hu
  exact ⟨body, u, hbody, hf.streams hu, hclosed⟩

end RowStream

end ShardProxy
