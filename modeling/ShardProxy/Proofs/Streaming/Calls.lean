import ShardProxy.Proofs.Streaming

/-!
# A row stream under any calls

A client calls a row stream as it likes: it asks for rows, fetches packets and closes the stream in any
order, also twice and also at the end. `r.trace operations` is all that happens, one operation after the
other, each with the stream in front of it and behind it. From the start of the rows on a stream is
either active and holds what it was given, or it has ended and holds nothing (`Stands`):

    Stands held r   →   Stands held (r.serve operation).after

The source of the rows counts only while the stream is active: every other operation comes out the same
whatever it would be to move or to read it (`Served.Ignores`), and a client cannot tell sources apart that
differ only behind their end (`AlikeUntilEnd`).
-/

namespace ShardProxy

open RowSource

/-- How a stream that was started goes on. -/
inductive StreamState.Moves {σ : Type} : StreamState σ → StreamState σ → Prop
  | on (rows rows' : σ) : Moves (.active rows) (.active rows')
  | exhaust (rows : σ) : Moves (.active rows) .exhausted
  | close (rows : σ) : Moves (.active rows) .closed
  | terminate : Moves .exhausted .closed
  | rest : Moves .closed .closed

namespace RowStream

variable {σ : Type}

/-! ## Where a stream stands -/

/-- The rows have come to an end, and everything has been released. -/
def Ended (r : RowStream σ) : Prop :=
  (r.state = .exhausted ∨ r.state = .closed) ∧ r.resources.isEmpty = true

theorem Ended.isActive {r : RowStream σ} (h : r.Ended) : r.state.isActive = false := by
  rcases h.1 with hstate | hstate <;> rw [hstate] <;> rfl

/-- A stream that was started while it held some resources. -/
def Stands (held : Resources) (r : RowStream σ) : Prop :=
  (∃ rows, r.state = .active rows ∧ r.resources = held) ∨ r.Ended

/-- What is left of a stream that was moved to another state and released. -/
theorem ended_releaseInto (r : RowStream σ) {state : StreamState σ}
    (h : state = .exhausted ∨ state = .closed) : (r.releaseInto state).2.Ended :=
  ⟨h, r.isEmpty_releaseInto state⟩

theorem stands_activate (r : RowStream σ) (rows : σ) (types : List ColumnType) (sequenceId : UInt32) :
    (r.activate rows types sequenceId).Stands r.resources :=
  .inl ⟨rows, rfl, rfl⟩

theorem Stands.holds {held : Resources} {r : RowStream σ} (hr : r.Stands held) :
    (r.state.isActive = true → r.resources = held) ∧
      (r.state.isActive = false → r.resources.isEmpty = true) := by
  rcases hr with ⟨rows, hstate, hheld⟩ | hended
  · exact ⟨fun _ => hheld, fun h => by rw [hstate] at h; cases h⟩
  · refine ⟨fun h => ?_, fun _ => hended.2⟩
    rw [hended.isActive] at h
    cases h

/-! ## Operations -/

inductive Operation
  | hasMore
  | nextPacket
  | close

/-- What a client is told. -/
inductive Answer
  | more (outcome : Except ProxyError Bool)
  | packet (packet : Packet)
  | done

/-- An operation on a stream: the stream in front of it, the answer, the calls made on the way and the
stream behind it. -/
structure Served (σ : Type) where
  operation : Operation
  before : RowStream σ
  answer : Answer
  calls : List Call
  after : RowStream σ

namespace Served

def packet? (s : Served σ) : Option Packet :=
  match s.answer with
  | .packet p => some p
  | _ => none

/-- A client is told that there is a packet to be fetched. -/
def saysMore (s : Served σ) : Bool :=
  match s.answer with
  | .more (.ok true) => true
  | _ => false

/-- A client is told that there is nothing more. -/
def SaysLast (s : Served σ) : Prop :=
  s.answer = .more (.ok false) ∨ ∃ e, s.answer = .more (.error e)

/-- Nothing but the end is told. -/
def SaysEnd (s : Served σ) : Prop :=
  s.answer = .more (.ok false) ∨ s.answer = .done ∨ ∃ p, s.answer = .packet (.eof p)

/-- All that is seen from outside. -/
def told (s : Served σ) : Operation × Answer × List Call := (s.operation, s.answer, s.calls)

end Served

variable [RowSource σ]

def serve (r : RowStream σ) : Operation → Served σ
  | .hasMore => ⟨.hasMore, r, .more r.hasMore.outcome, r.hasMore.calls, r.hasMore.stream⟩
  | .nextPacket => ⟨.nextPacket, r, .packet r.nextPacket.1, [], r.nextPacket.2⟩
  | .close => ⟨.close, r, .done, r.close.1, r.close.2⟩

@[simp]
theorem before_serve (r : RowStream σ) (o : Operation) : (r.serve o).before = r := by cases o <;> rfl

@[simp]
theorem operation_serve (r : RowStream σ) (o : Operation) : (r.serve o).operation = o := by
  cases o <;> rfl

/-- One operation after the other. -/
def trace (r : RowStream σ) : List Operation → List (Served σ)
  | [] => []
  | o :: operations => r.serve o :: trace (r.serve o).after operations

/-! ## The source of the rows -/

namespace Served

/-- The operation comes out the same, whatever it were to move or to read the source. -/
def Ignores (s : Served σ) : Prop := ∀ other : RowSource σ, @serve σ other s.before s.operation = s

/-- What the source of an active stream says to the move that asking for more begins with. -/
def report? (s : Served σ) : Option (Except MergeError Bool) :=
  match s.operation, s.before.state with
  | .hasMore, .active rows => some (next rows).1
  | _, _ => none

/-- The source says that it has moved to a row. -/
def movesOn (s : Served σ) : Bool :=
  match s.report? with
  | some (.ok true) => true
  | _ => false

/-- The source says that it has come to its end or fails, or the stream is closed. -/
def EndsSource (s : Served σ) : Prop :=
  s.report? = some (.ok false) ∨ (∃ e, s.report? = some (.error e)) ∨ s.operation = .close

end Served

/-- Only an active stream has a source. -/
theorem ignores_serve {r : RowStream σ} (h : r.state.isActive = false) (o : Operation) :
    (r.serve o).Ignores := by
  have hbefore := before_serve r o
  have hoperation := operation_serve r o
  intro other
  rw [hbefore, hoperation]
  cases hstate : r.state with
  | active rows =>
    rw [hstate] at h
    cases h
  | inactive | exhausted | closed => cases o <;> simp only [serve, hasMore, nextPacket, hstate]

theorem ignores_close (r : RowStream σ) : (r.serve .close).Ignores := fun _ => rfl

/-! ## What an operation does -/

/-- What an operation does on an active stream: it moves the source once, or reads the row where the
source stands, or leaves it alone. -/
inductive Acts (r : RowStream σ) (rows : σ) : Served σ → Prop
  | moved {rows' : σ} : next rows = (.ok true, rows') →
      Acts r rows ⟨.hasMore, r, .more (.ok true), [], { r with state := .active rows' }⟩
  | ended {rows' : σ} : next rows = (.ok false, rows') →
      Acts r rows ⟨.hasMore, r, .more (.ok true), r.resources.closing,
        { r with state := .exhausted, resources := r.resources.release.2 }⟩
  | failed {rows' : σ} {e : MergeError} : next rows = (.error e, rows') →
      Acts r rows ⟨.hasMore, r, .more (.error (.merge e)), r.resources.closing,
        { r with state := .closed, resources := r.resources.release.2 }⟩
  | read {values : Row} : RowSource.read rows r.types = .ok values →
      Acts r rows ⟨.nextPacket, r, .packet (.row ⟨r.sequenceId + 1, values, r.types⟩), [],
        { r with sequenceId := r.sequenceId + 1 }⟩
  | unreadable {e : MergeError} : RowSource.read rows r.types = .error e →
      Acts r rows ⟨.nextPacket, r, .packet (.err (e.packet (r.sequenceId + 1))), [],
        { r with sequenceId := r.sequenceId + 1 }⟩
  | closed : Acts r rows ⟨.close, r, .done, r.resources.closing,
      { r with state := .closed, resources := r.resources.release.2 }⟩

theorem acts_serve {r : RowStream σ} {rows : σ} (hr : r.state = .active rows) (o : Operation) :
    Acts r rows (r.serve o) := by
  have hclosing : r.resources.release.1 = r.resources.closing := r.resources.release_fst
  cases o with
  | hasMore =>
    rcases hn : next rows with ⟨outcome, rows'⟩
    simp only [serve, hasMore, hr, hn]
    cases outcome with
    | error e =>
      simp only [close, releaseInto, hclosing]
      exact .failed hn
    | ok has =>
      cases has with
      | true => exact .moved hn
      | false =>
        simp only [releaseInto, hclosing]
        exact .ended hn
  | nextPacket =>
    simp only [serve, nextPacket, hr]
    rw [← hr]
    cases hread : RowSource.read rows r.types with
    | ok values =>
      simp only [rowPacket, hread]
      exact .read hread
    | error e =>
      simp only [rowPacket, hread]
      exact .unreadable hread
  | close =>
    simp only [serve, close, releaseInto, hclosing]
    exact .closed

/-- A stream that has ended makes no calls, does not touch the source, tells only of the end, and is
closed. -/
structure Quiet (s : Served σ) : Prop where
  untouched : s.Ignores
  calls : s.calls = []
  answer : s.SaysEnd
  ended : s.after.Ended
  closed : s.after.state = .closed
  moves : s.before.state.Moves s.after.state

theorem quiet_serve {r : RowStream σ} (hr : r.Ended) (o : Operation) : Quiet (r.serve o) := by
  have huntouched := ignores_serve hr.isActive o
  obtain ⟨hstate, hempty⟩ := hr
  have hclose : r.close.1 = [] := by simp [close, releaseInto, Resources.release, hempty]
  have hended : r.close.2.Ended := r.ended_releaseInto (.inr rfl)
  have hmoves : r.state.Moves .closed := by
    rcases hstate with h | h
    · rw [h]
      exact .terminate
    · rw [h]
      exact .rest
  cases o with
  | hasMore =>
    have hmore : r.hasMore = ⟨.ok false, r.close.1, r.close.2⟩ := by
      rcases hstate with h | h <;> simp only [hasMore, h]
    simp only [serve, hmore] at huntouched ⊢
    exact ⟨huntouched, hclose, .inl rfl, hended, rfl, hmoves⟩
  | nextPacket =>
    have hnext : r.nextPacket = (.eof (.ofSequence (r.sequenceId + 1)),
        { r with sequenceId := r.sequenceId + 1, state := .closed }) := by
      rcases hstate with h | h
      · simp only [nextPacket, h]
      · simp only [nextPacket, h]
    simp only [serve, hnext] at huntouched ⊢
    exact ⟨huntouched, rfl, .inr (.inr ⟨_, rfl⟩), ⟨.inr rfl, hempty⟩, rfl, hmoves⟩
  | close => exact ⟨huntouched, hclose, .inr (.inl rfl), hended, rfl, hmoves⟩

/-- An operation after which the stream is still active. -/
structure GoesOn (held : Resources) (s : Served σ) : Prop where
  active : ∃ rows rows', s.before.state = .active rows ∧ s.after.state = .active rows'
  held : s.after.resources = held
  calls : s.calls = []
  source : ¬ s.EndsSource
  answer : ¬ s.SaysLast

theorem goesOn_or_ended {held : Resources} {r : RowStream σ} (hr : r.Stands held) (o : Operation) :
    GoesOn held (r.serve o) ∨ (r.serve o).after.Ended := by
  rcases hr with ⟨rows, hstate, hheld⟩ | hended
  · have hacts := acts_serve hstate o
    generalize r.serve o = s at hacts ⊢
    cases hacts with
    | moved hn =>
      refine .inl ⟨⟨rows, _, hstate, rfl⟩, hheld, rfl, ?_, ?_⟩
      · simp [Served.EndsSource, Served.report?, hstate, hn]
      · simp [Served.SaysLast]
    | ended => exact .inr (r.ended_releaseInto (.inl rfl))
    | failed | closed => exact .inr (r.ended_releaseInto (.inr rfl))
    | read | unreadable =>
      refine .inl ⟨⟨rows, rows, hstate, hstate⟩, hheld, rfl, ?_, ?_⟩
      · simp [Served.EndsSource, Served.report?]
      · simp [Served.SaysLast]
  · exact .inr (quiet_serve hended o).ended

theorem stands_serve {held : Resources} {r : RowStream σ} (hr : r.Stands held) (o : Operation) :
    (r.serve o).after.Stands held := by
  rcases goesOn_or_ended hr o with h | h
  · obtain ⟨-, rows', -, hafter⟩ := h.active
    exact .inl ⟨rows', hafter, h.held⟩
  · exact .inr h

/-! ## Traces -/

/-- What holds of every operation on streams that keep `J` holds all along a trace. -/
theorem forall_trace {J : RowStream σ → Prop} {R : Served σ → Prop}
    (hJ : ∀ r o, J r → J (r.serve o).after ∧ R (r.serve o)) {r : RowStream σ} (hr : J r)
    (operations : List Operation) : ∀ s ∈ r.trace operations, R s := by
  induction operations generalizing r with
  | nil => exact List.forall_mem_nil _
  | cons o operations ih =>
    obtain ⟨hafter, hs⟩ := hJ r o hr
    exact List.forall_mem_cons.mpr ⟨hs, ih hafter⟩

/-- If a stream keeps `I` from every operation with `T` on, and with `I` every operation has `Q`, then
behind an operation with `T` there are only such with `Q`. -/
theorem pairwise_trace {J I : RowStream σ → Prop} {T Q : Served σ → Prop}
    (hJ : ∀ r o, J r → J (r.serve o).after ∧ (T (r.serve o) → I (r.serve o).after))
    (hI : ∀ r o, I r → I (r.serve o).after ∧ Q (r.serve o)) {r : RowStream σ} (hr : J r)
    (operations : List Operation) : (r.trace operations).Pairwise fun s s' => T s → Q s' := by
  induction operations generalizing r with
  | nil => exact .nil
  | cons o operations ih =>
    obtain ⟨hafter, hs⟩ := hJ r o hr
    exact .cons (fun s' hs' hT => forall_trace hI (hs hT) operations s' hs') (ih hafter)

/-- Only fetching a packet counts one up. -/
theorem packet?_serve (r : RowStream σ) (o : Operation) :
    ((r.serve o).packet? = none ∧ (r.serve o).after.sequenceId = r.sequenceId) ∨
      ∃ p, (r.serve o).packet? = some p ∧ p.sequenceId = r.sequenceId + 1 ∧
        (r.serve o).after.sequenceId = r.sequenceId + 1 := by
  cases o with
  | hasMore =>
    refine .inl ⟨rfl, ?_⟩
    simp only [serve]
    unfold hasMore
    split
    · split <;> rfl
    · rfl
  | nextPacket =>
    refine .inr ⟨r.nextPacket.1, rfl, ?_⟩
    simp only [serve, nextPacket]
    split
    · refine ⟨?_, rfl⟩
      unfold rowPacket
      split <;> rfl
    · exact ⟨rfl, rfl⟩
    · exact ⟨rfl, rfl⟩
  | close => exact .inl ⟨rfl, rfl⟩

theorem sequenceId_of_trace (r : RowStream σ) (operations : List Operation) {k : Nat} {p : Packet}
    (h : ((r.trace operations).filterMap Served.packet?)[k]? = some p) :
    p.sequenceId = r.sequenceId + .ofNat (k + 1) := by
  induction operations generalizing r k with
  | nil => cases h
  | cons o operations ih =>
    rw [trace] at h
    rcases packet?_serve r o with ⟨hnone, hafter⟩ | ⟨q, hsome, hq, hafter⟩
    · rw [List.filterMap_cons_none hnone] at h
      rw [ih _ h, hafter]
    · rw [List.filterMap_cons_some hsome] at h
      cases k with
      | zero =>
        obtain rfl : q = p := Option.some.inj h
        exact hq
      | succ k =>
        rw [ih _ h, hafter, UInt32.add_assoc, UInt32.ofNat_add (k + 1) 1, UInt32.add_comm 1]
        rfl

/-- Telling that there is more takes a row of the source, or else the stream out of its active state. -/
theorem saysMore_serve {held : Resources} {r : RowStream σ} (hr : r.Stands held) (o : Operation) :
    (r.serve o).saysMore.toNat + (r.serve o).after.state.isActive.toNat ≤
      (r.serve o).movesOn.toNat + r.state.isActive.toNat := by
  rcases hr with ⟨rows, hstate, -⟩ | hended
  · have hacts := acts_serve hstate o
    rw [hstate]
    generalize r.serve o = s at hacts ⊢
    cases hacts with
    | moved hn => simp only [Served.movesOn, Served.report?, hstate, hn]; rfl
    | ended => exact Nat.le_add_left _ _
    | failed => exact Nat.zero_le _
    | read | unreadable =>
      rw [hstate]
      exact Nat.le_add_left _ _
    | closed => exact Nat.zero_le _
  · have hq := quiet_serve hended o
    have hanswer : (r.serve o).saysMore = false := by
      rcases hq.answer with h | h | ⟨p, h⟩ <;> simp only [Served.saysMore, h]
    rw [hanswer, hq.closed]
    exact Nat.zero_le _

theorem countP_saysMore_le {held : Resources} {r : RowStream σ} (hr : r.Stands held)
    (operations : List Operation) :
    (r.trace operations).countP Served.saysMore ≤
      (r.trace operations).countP Served.movesOn + r.state.isActive.toNat := by
  induction operations generalizing r with
  | nil => exact Nat.zero_le _
  | cons o operations ih =>
    have hstep := saysMore_serve hr o
    have hrest := ih (stands_serve hr o)
    have htoNat : ∀ b : Bool, (if b = true then 1 else 0) = b.toNat := by decide
    rw [trace, List.countP_cons, List.countP_cons, htoNat, htoNat]
    omega

/-! ## Sources that are alike -/

/-- Sources that show the same rows and come to the same end: of what they do behind it nothing is said. -/
structure AlikeUntilEnd {τ : Type} [RowSource τ] (R : σ → τ → Prop) : Prop where
  value : ∀ {s t}, R s t → RowSource.value s = RowSource.value t
  outcome : ∀ {s t}, R s t → (next s).1 = (next t).1
  on : ∀ {s t s' t'}, R s t → next s = (.ok true, s') → next t = (.ok true, t') → R s' t'

/-- States with sources of which `R` holds, or without any. -/
inductive StateAlike {τ : Type} (R : σ → τ → Prop) : StreamState σ → StreamState τ → Prop
  | inactive : StateAlike R .inactive .inactive
  | active {rows : σ} {rows' : τ} : R rows rows' → StateAlike R (.active rows) (.active rows')
  | exhausted : StateAlike R .exhausted .exhausted
  | closed : StateAlike R .closed .closed

/-- Streams that differ at most in their sources, and these by `R`. -/
structure Alike {τ : Type} (R : σ → τ → Prop) (r : RowStream σ) (r' : RowStream τ) : Prop where
  sequenceId : r.sequenceId = r'.sequenceId
  types : r.types = r'.types
  state : StateAlike R r.state r'.state
  resources : r.resources = r'.resources

section Alike

variable {τ : Type} [RowSource τ] {R : σ → τ → Prop}

/-- An operation on alike streams is answered alike, and they stay alike: where an operation moves the
sources further, both have said that there is a row. -/
theorem alike_serve (hR : AlikeUntilEnd R) {r : RowStream σ} {r' : RowStream τ} (h : r.Alike R r')
    (o : Operation) :
    (r.serve o).told = (r'.serve o).told ∧ (r.serve o).after.Alike R (r'.serve o).after := by
  obtain ⟨sequenceId, types, state, resources⟩ := r
  obtain ⟨_, _, state', _⟩ := r'
  obtain ⟨rfl, rfl, hstate, rfl⟩ := h
  cases hstate with
  | @active rows rows' hrows =>
    cases o with
    | hasMore =>
      rcases hs : next rows with ⟨outcome, s⟩
      rcases ht : next rows' with ⟨outcome', t⟩
      have houtcome := hR.outcome hrows
      rw [hs, ht] at houtcome
      obtain rfl : outcome = outcome' := houtcome
      simp only [serve, hasMore, hs, ht]
      rcases outcome with e | _ | _
      · exact ⟨rfl, rfl, rfl, .closed, rfl⟩
      · exact ⟨rfl, rfl, rfl, .exhausted, rfl⟩
      · exact ⟨rfl, rfl, rfl, .active (hR.on hrows hs ht), rfl⟩
    | nextPacket =>
      have hpacket : rowPacket rows types (sequenceId + 1) = rowPacket rows' types (sequenceId + 1) := by
        simp only [rowPacket, RowSource.read, hR.value hrows]
      simp only [serve, nextPacket, hpacket]
      exact ⟨rfl, rfl, rfl, .active hrows, rfl⟩
    | close => exact ⟨rfl, rfl, rfl, .closed, rfl⟩
  | inactive =>
    cases o with
    | hasMore | close => exact ⟨rfl, rfl, rfl, .closed, rfl⟩
    | nextPacket => exact ⟨rfl, rfl, rfl, .inactive, rfl⟩
  | exhausted | closed => cases o <;> exact ⟨rfl, rfl, rfl, .closed, rfl⟩

theorem told_trace (hR : AlikeUntilEnd R) {r : RowStream σ} {r' : RowStream τ} (h : r.Alike R r')
    (operations : List Operation) :
    (r.trace operations).map Served.told = (r'.trace operations).map Served.told := by
  induction operations generalizing r r' with
  | nil => rfl
  | cons o operations ih =>
    obtain ⟨htold, hafter⟩ := alike_serve hR h o
    rw [trace, trace, List.map_cons, List.map_cons, htold, ih hafter]

end Alike

/-! ## The safety of a stream -/

/-- What a client can rely on, in whatever order it calls a stream that was started behind the packet
`sequenceId` while it held the resources `held`. -/
structure Orderly (held : Resources) (sequenceId : UInt32) (steps : List (Served σ)) : Prop where
  /-- The packets are numbered one after the other, the ids wrapping around. -/
  numbered : ∀ k p, (steps.filterMap Served.packet?)[k]? = some p →
    p.sequenceId = sequenceId + .ofNat (k + 1)
  /-- What is done on an active stream, and what its source is asked on the way. -/
  acts : ∀ s ∈ steps, ∀ rows, s.before.state = .active rows → Acts s.before rows s
  /-- Once the source has ended or failed, or the stream was closed, the source is left alone. -/
  untouched : steps.Pairwise fun s s' => s.EndsSource → s'.Ignores
  /-- As long as a stream is active it holds everything, from then on nothing. -/
  holds : ∀ s ∈ steps, ∀ r, r = s.before ∨ r = s.after →
    (r.state.isActive = true → r.resources = held) ∧
      (r.state.isActive = false → r.resources.isEmpty = true)
  /-- Everything is released by the operation that ends the active state, and only by that. -/
  releases : ∀ s ∈ steps, s.calls =
    if s.before.state.isActive = true ∧ s.after.state.isActive = false then
      held.statements.map .statementClosed ++ held.connections.map .connectionClosed
    else []
  /-- The source is touched only while the stream is active and holds everything, and not to close it. -/
  opened : ∀ s ∈ steps, ¬ s.Ignores →
    s.before.state.isActive = true ∧ s.before.resources = held ∧ s.operation ≠ .close
  /-- Nor is it touched once anything was released. -/
  released : steps.Pairwise fun s s' => s.calls ≠ [] → s'.Ignores
  moves : ∀ s ∈ steps, s.before.state.Moves s.after.state
  /-- Once a client was told that there is no more it is told nothing but the end. -/
  ending : steps.Pairwise fun s s' => s.SaysLast → s'.SaysEnd
  /-- More is told at most once more than the source was moved to a row. -/
  bounded : steps.countP Served.saysMore ≤ steps.countP Served.movesOn + 1

/-- A trace in which every operation with `T` ends the stream has, behind one, only operations as on an
ended stream. -/
theorem pairwise_of_ended {held : Resources} {r : RowStream σ} (hr : r.Stands held)
    {T Q : Served σ → Prop} (hT : ∀ s, GoesOn held s → ¬ T s) (hQ : ∀ s, Quiet s → Q s) (operations : List Operation) :
    (r.trace operations).Pairwise fun s s' => T s → Q s' := by
  refine pairwise_trace (J := Stands held) (I := Ended) (fun r o hr => ?_) (fun r o hr => ?_) hr
    operations
  · refine ⟨stands_serve hr o, fun hs => ?_⟩
    rcases goesOn_or_ended hr o with h | h
    · exact absurd hs (hT _ h)
    · exact h
  · have hq := quiet_serve hr o
    exact ⟨hq.ended, hQ _ hq⟩

theorem calls_serve {held : Resources} {r : RowStream σ} (hr : r.Stands held) (o : Operation) :
    (r.serve o).calls =
      if r.state.isActive = true ∧ (r.serve o).after.state.isActive = false then held.closing
      else [] := by
  rcases hr with ⟨rows, hstate, rfl⟩ | hended
  · have hacts := acts_serve hstate o
    generalize r.serve o = s at hacts ⊢
    rw [hstate]
    cases hacts with
    | moved => rfl
    | ended | failed | closed => rfl
    | read | unreadable => rw [hstate]; rfl
  · rw [(quiet_serve hended o).calls, if_neg]
    rintro ⟨h, -⟩
    rcases hended.1 with hs | hs <;> rw [hs] at h <;> cases h

theorem moves_serve {held : Resources} {r : RowStream σ} (hr : r.Stands held) (o : Operation) :
    r.state.Moves (r.serve o).after.state := by
  rcases hr with ⟨rows, hstate, -⟩ | hended
  · have hacts := acts_serve hstate o
    generalize r.serve o = s at hacts ⊢
    rw [hstate]
    cases hacts with
    | moved => exact .on _ _
    | ended => exact .exhaust _
    | failed | closed => exact .close _
    | read | unreadable =>
      rw [hstate]
      exact .on _ _
  · have hmoves := (quiet_serve hended o).moves
    rwa [before_serve] at hmoves

theorem opened_serve {held : Resources} {r : RowStream σ} (hr : r.Stands held) {o : Operation}
    (h : ¬ (r.serve o).Ignores) : r.state.isActive = true ∧ r.resources = held ∧ o ≠ .close := by
  have hactive : r.state.isActive = true := by
    rw [← Bool.not_eq_false]
    exact fun hinactive => h (ignores_serve hinactive o)
  refine ⟨hactive, hr.holds.1 hactive, ?_⟩
  rintro rfl
  exact h r.ignores_close

/-- A stream that was started while it held some resources is orderly under any calls, and tells the same
over any source that shows the same rows and comes to the same end. -/
theorem orderly_trace (r : RowStream σ) (rows : σ) (types : List ColumnType) (sequenceId : UInt32)
    (operations : List Operation) :
    Orderly r.resources sequenceId ((r.activate rows types sequenceId).trace operations) ∧
    ∀ {τ : Type} [RowSource τ] (R : σ → τ → Prop) (r' : RowStream τ) (rows' : τ),
      AlikeUntilEnd R → R rows rows' → r.resources = r'.resources →
        ((r.activate rows types sequenceId).trace operations).map Served.told =
          ((r'.activate rows' types sequenceId).trace operations).map Served.told := by
  have hr := r.stands_activate rows types sequenceId
  have hall : ∀ {R : Served σ → Prop}, (∀ t o, Stands r.resources t → R (t.serve o)) →
      ∀ s ∈ (r.activate rows types sequenceId).trace operations, R s := fun h =>
    forall_trace (J := Stands r.resources) (fun t o ht => ⟨stands_serve ht o, h t o ht⟩) hr operations
  constructor
  · exact {
      numbered := fun k p h => sequenceId_of_trace _ operations h
      acts := hall fun t o _ rows hrows => by
        rw [before_serve] at hrows ⊢
        exact acts_serve hrows o
      untouched := pairwise_of_ended hr (fun s h => h.source) (fun s h => h.untouched) operations
      holds := hall fun t o ht t' ht' => by
        rcases ht' with rfl | rfl
        · rw [before_serve]
          exact ht.holds
        · exact (stands_serve ht o).holds
      releases := hall fun t o ht => by
        rw [before_serve]
        exact calls_serve ht o
      opened := hall fun t o ht h => by
        rw [before_serve, operation_serve]
        exact opened_serve ht h
      released := pairwise_of_ended hr (fun s h hcalls => hcalls h.calls) (fun s h => h.untouched) operations
      moves := hall fun t o ht => by
        rw [before_serve]
        exact moves_serve ht o
      ending := pairwise_of_ended hr (fun s h => h.answer) (fun s h => h.answer) operations
      bounded := countP_saysMore_le hr operations }
  · intro τ _ R r' rows' hR hrows hresources
    have halike : (r.activate rows types sequenceId).Alike R (r'.activate rows' types sequenceId) :=
      ⟨rfl, rfl, .active hrows, hresources⟩
    exact told_trace hR halike operations

end RowStream

end ShardProxy
