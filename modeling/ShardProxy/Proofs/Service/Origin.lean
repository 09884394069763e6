import ShardProxy.Proofs.Dispatch.Announcement
import ShardProxy.Proofs.Service.Course

/-!
# Which execution streamed rows are of

A row stream is started by an execution whose answer announces merged rows, and by nothing else. From
there on its rows are of the shards of that execution, until it has ended, is closed, or is started
again. An execution that fails closes it. Any other answer leaves it as it was, so that what is streamed
behind such an answer are rows of an execution before.

    start, row, row, …       failed, (nothing)       start, row, answered, row, …
-/

namespace ShardProxy

open RowSource

namespace RowStream

variable {σ : Type} [RowSource σ] {I : σ → Prop} {r : RowStream σ}

/-- A stream that is on rows of which `I` holds, if it is active. -/
def On (I : σ → Prop) (r : RowStream σ) : Prop := ∀ rows, r.state = .active rows → I rows

omit [RowSource σ] in
theorem on_of_closed (h : r.state = .closed) : r.On I := by
  intro rows hrows
  rw [h] at hrows
  cases hrows

omit [RowSource σ] in
theorem on_nothing_iff : r.On (fun _ => False) ↔ r.state.isActive = false := by
  constructor
  · intro h
    cases hstate : r.state with
    | active rows => exact absurd hstate (h rows)
    | inactive | exhausted | closed => rfl
  · intro h rows hrows
    rw [hrows] at h
    cases h

theorem on_hasMore (hI : ∀ {s s' : σ}, I s → next s = (.ok true, s') → I s') (h : r.On I) :
    r.hasMore.stream.On I := by
  unfold hasMore
  split
  · next rows hrows =>
    split
    · next rows' hn =>
      intro t ht
      obtain rfl := StreamState.active.inj ht
      exact hI (h rows hrows) hn
    · exact nofun
    · exact on_of_closed rfl
  · exact on_of_closed rfl

theorem on_nextPacket (h : r.On I) : r.nextPacket.2.On I := by
  unfold nextPacket
  split
  · next rows hrows => exact h
  · exact nofun
  · exact h

/-- A stream without rows says so, and has no packet but the terminator. -/
theorem silent_of_on (h : r.On fun _ => False) :
    r.hasMore.outcome = .ok false ∧ ∃ e, r.nextPacket.1 = .eof e := by
  unfold hasMore nextPacket
  cases hstate : r.state with
  | active rows => exact absurd hstate (h rows)
  | inactive | closed | exhausted => exact ⟨rfl, _, rfl⟩

/-- The packet for a row has the columns of a row that can be shown. -/
theorem exists_row_of_nextPacket {R : Row → Prop} (h : r.On fun rows => Reading.Within R (value rows))
    {p : RowPacket} (hp : r.nextPacket.1 = .row p) :
    p.values = [] ∨ ∃ row, R row ∧ row.reading.Packs p.types p.sequenceId (.row p) := by
  unfold nextPacket at hp
  cases hstate : r.state with
  | active rows =>
    simp only [hstate] at hp
    have hpacks := packs_rowPacket rows r.types (r.sequenceId + 1)
    rw [hp] at hpacks
    cases hpacks with
    | @row values hvalues =>
    rcases h rows hstate with ⟨row, hrow, hreading⟩ | hnone
    · rw [hreading] at hvalues
      exact .inr ⟨row, hrow, .row hvalues⟩
    · left
      generalize r.types.zipIdx = cells at hvalues
      cases hvalues with
      | nil => rfl
      | @cons cell v _ _ hv _ =>
        obtain ⟨e, he⟩ := hnone (cell.2 + 1) cell.1
        rw [he] at hv
        cases hv
  | inactive | closed | exhausted =>
    simp only [hstate] at hp
    cases hp

end RowStream

/-! ## Acts -/

/-- Whether the last call is an execution that failed. -/
def Stage.isFailed : Stage → Bool
  | executed (.failed _) => true
  | _ => false

namespace Client

/-- What an act does with the row stream of its client. -/
inductive Turn (k : Client) (p : Proxy) (a : Act) (x : Stage × Portal × Proxy) : Prop
  | kept : x.2.1.stream.state = k.portal.stream.state → x.1.isFailed = false → Turn k p a x
  | closed : x.2.1.stream.state = .closed → Turn k p a x
  | started {command : Nat} {statement : Statement} {responses : List ShardResponse} {rows : Merged} :
      a = .finish → k.stage = .executed (.running command statement) →
      p.returned? command = some (.ok responses) →
      Dispatch.Merges statement responses k.portal.stream rows → Turn k p a x
  | moved : x.1 = .moved k.portal.stream.hasMore.outcome →
      x.2.1.stream = k.portal.stream.hasMore.stream → Turn k p a x
  | fetched : x.1 = .fetched k.portal.stream.nextPacket.1 →
      x.2.1.stream = k.portal.stream.nextPacket.2 → Turn k p a x

theorem turn_fail {k : Client} {p p' : Proxy} {a : Act} {portal : Portal} {e : ProxyError} :
    Turn k p a (settled (p'.fail portal e)) := .closed rfl

/-- A command that runs is given up, or finished. -/
theorem eq_finish_of_running {k : Client} {p : Proxy} {a : Act} {x : Stage × Portal × Proxy}
    (h : k.act p a = some x) {command : Nat} {statement : Statement}
    (hstage : k.stage = .executed (.running command statement)) (hx : x.1 ≠ .idle) : a = .finish := by
  cases a with
  | finish => rfl
  | giveUp =>
    simp only [act, hstage, Option.some.injEq] at h
    exact absurd (congrArg Prod.fst h.symm) hx
  | execute | connect | prepare | submit | hasMore | nextPacket | drop =>
    simp [act, hstage, Stage.isFree] at h

theorem turn_of_act {k : Client} {p : Proxy} {a : Act} {x : Stage × Portal × Proxy}
    (h : k.act p a = some x) : k.Turn p a x := by
  cases step_of_act h with
  | execute =>
    unfold execute
    split
    · exact turn_fail
    · exact .kept rfl rfl
    · exact .kept rfl rfl
  | @connect statement ready unit units _ =>
    rcases hconnect : p.sources.connect (p.opened k.portal) unit.dataSource with ⟨e | c, o⟩
    · rw [connect_error hconnect]
      exact turn_fail
    · rw [connect_ok hconnect]
      exact .kept rfl rfl
  | @prepare statement ready unit units connection _ =>
    rcases hprepare : (p.opened k.portal).prepare connection unit statement with ⟨e | u, o⟩
    · rw [prepare_error hprepare]
      exact turn_fail
    · rw [prepare_ok hprepare]
      exact .kept rfl rfl
  | submit | giveUp | abandon => exact .kept rfl rfl
  | @finish command statement answer hstage hanswer =>
    cases answer with
    | error fault => exact turn_fail
    | ok responses =>
      rcases Dispatch.merges_or_leaves statement responses k.portal.stream with ⟨rows, hm⟩ | hsame
      · exact .started (eq_finish_of_running h hstage nofun) hstage hanswer hm
      · exact .kept (congrArg RowStream.state hsame) rfl
  | hasMore => exact .moved rfl rfl
  | nextPacket => exact .fetched rfl rfl
  | drop => exact .closed rfl

theorem act_hasMore {k : Client} {p : Proxy} {x : Stage × Portal × Proxy} :
    k.act p .hasMore = some x ↔ k.stage.isFree = true ∧
      x = (.moved (p.hasMore k.portal).1, (p.hasMore k.portal).2) := by
  simp only [act, Option.ite_none_right_eq_some, Option.some.injEq]
  exact and_congr_right fun _ => eq_comm

theorem act_nextPacket {k : Client} {p : Proxy} {x : Stage × Portal × Proxy} :
    k.act p .nextPacket = some x ↔ k.stage.isFree = true ∧
      x = (.fetched k.portal.nextPacket.1, k.portal.nextPacket.2, p) := by
  simp only [act, Option.ite_none_right_eq_some, Option.some.injEq]
  exact and_congr_right fun _ => eq_comm

end Client

/-! ## Runs -/

namespace Service

variable {s s' : Service} {i : Nat} {I : Merged → Prop}

/-- Client `i` can do `a`, and stands at `stage` then. -/
def Does (s : Service) (i : Nat) (a : Act) (stage : Stage) : Prop :=
  ∃ s' k, s.step (.act i a) = some s' ∧ s'.clients[i]? = some k ∧ k.stage = stage

/-- With this move client `i` is answered that the rows of its command are merged, and its row stream is
started on them. -/
def Starts (s : Service) (i : Nat) (m : Move) (responses : List ShardResponse) (rows : Merged) : Prop :=
  m = .act i .finish ∧ ∃ k command statement, s.clients[i]? = some k ∧
    k.stage = .executed (.running command statement) ∧
    s.proxy.returned? command = some (.ok responses) ∧
    Dispatch.Merges statement responses k.portal.stream rows

/-- The row stream of client `i` is on rows of which `I` holds, if it is active. -/
def StreamsOn (s : Service) (i : Nat) (I : Merged → Prop) : Prop :=
  ∃ k, s.clients[i]? = some k ∧ k.portal.stream.On I

/-- Nothing is streamed to client `i`: when it asks for more it is told that there is none, and the only
packet is the terminator. -/
def Silent (s : Service) (i : Nat) : Prop :=
  ∃ k, s.clients[i]? = some k ∧ (k.stage.isFree = true →
    s.Does i .hasMore (.moved (.ok false)) ∧ ∃ e, s.Does i .nextPacket (.fetched (.eof e)))

/-- A row that is streamed to client `i` is one of the rows of these shards. -/
def StreamsRowsOf (s : Service) (i : Nat) (shards : List ShardRows) : Prop :=
  ∀ p, s.Does i .nextPacket (.fetched (.row p)) → p.values = [] ∨
    ∃ shard ∈ shards, ∃ row ∈ shard.cursor.rows, row.reading.Packs p.types p.sequenceId (.row p)

theorem does_iff {a : Act} {stage : Stage} :
    s.Does i a stage ↔
      ∃ k x, s.clients[i]? = some k ∧ k.act s.proxy a = some x ∧ x.1 = stage := by
  constructor
  · rintro ⟨s', k', hs, hk', rfl⟩
    obtain ⟨k, x, hk, hx, rfl⟩ := act_inv hs
    obtain rfl := Option.some.inj ((getElem?_acted hk x).symm.trans hk')
    exact ⟨k, x, hk, hx, rfl⟩
  · rintro ⟨k, x, hk, hx, rfl⟩
    exact ⟨_, _, step_act hk hx, getElem?_acted hk x, rfl⟩

theorem does_hasMore {stage : Stage} :
    s.Does i .hasMore stage ↔ ∃ k, s.clients[i]? = some k ∧ k.stage.isFree = true ∧
      .moved k.portal.stream.hasMore.outcome = stage := by
  rw [does_iff]
  constructor
  · rintro ⟨k, x, hk, hx, hstage⟩
    obtain ⟨hfree, rfl⟩ := Client.act_hasMore.mp hx
    exact ⟨k, hk, hfree, hstage⟩
  · rintro ⟨k, hk, hfree, hstage⟩
    exact ⟨k, _, hk, Client.act_hasMore.mpr ⟨hfree, rfl⟩, hstage⟩

theorem does_nextPacket {stage : Stage} :
    s.Does i .nextPacket stage ↔ ∃ k, s.clients[i]? = some k ∧ k.stage.isFree = true ∧
      .fetched k.portal.stream.nextPacket.1 = stage := by
  rw [does_iff]
  constructor
  · rintro ⟨k, x, hk, hx, hstage⟩
    obtain ⟨hfree, rfl⟩ := Client.act_nextPacket.mp hx
    exact ⟨k, hk, hfree, hstage⟩
  · rintro ⟨k, hk, hfree, hstage⟩
    exact ⟨k, _, hk, Client.act_nextPacket.mpr ⟨hfree, rfl⟩, hstage⟩

/-- Only a start puts a stream on other rows. -/
theorem StreamsOn.step (hI : ∀ {m m' : Merged}, I m → next m = (.ok true, m') → I m') {m : Move}
    (h : s.StreamsOn i I) (hs : s.step m = some s')
    (hno : ∀ responses rows, ¬ s.Starts i m responses rows) : s'.StreamsOn i I := by
  obtain ⟨k, hk, hon⟩ := h
  rcases client_of_step hs hk with hsame | ⟨a, x, rfl, hx, rfl⟩
  · exact ⟨k, hsame, hon⟩
  · refine ⟨_, getElem?_acted hk x, ?_⟩
    cases Client.turn_of_act hx with
    | kept hstate => exact fun rows hrows => hon rows (hstate.symm.trans hrows)
    | closed hstate => exact RowStream.on_of_closed hstate
    | started ha hstage hanswer hm =>
      exact absurd ⟨congrArg _ ha, k, _, _, hk, hstage, hanswer, hm⟩ (hno _ _)
    | moved _ hstream =>
      show x.2.1.stream.On I
      rw [hstream]
      exact RowStream.on_hasMore hI hon
    | fetched _ hstream =>
      show x.2.1.stream.On I
      rw [hstream]
      exact RowStream.on_nextPacket hon

theorem StreamsOn.run (hI : ∀ {m m' : Merged}, I m → next m = (.ok true, m') → I m')
    {moves : List Move} (h : s.StreamsOn i I) (hrun : s.run? moves = some s')
    (hno : ∀ t m, s.Takes moves t m → ∀ responses rows, ¬ t.Starts i m responses rows) :
    s'.StreamsOn i I :=
  keeps_run_of_takes (J := fun s => s.StreamsOn i I)
    (fun {t _ m} htakes h hs => h.step hI hs (hno t m htakes)) h hrun

theorem StreamsOn.silent (h : s.StreamsOn i fun _ => False) : s.Silent i := by
  obtain ⟨k, hk, hon⟩ := h
  obtain ⟨houtcome, e, he⟩ := RowStream.silent_of_on hon
  refine ⟨k, hk, fun hfree => ⟨does_hasMore.mpr ⟨k, hk, hfree, ?_⟩, e, ?_⟩⟩
  · rw [houtcome]
  · rw [← he]
    exact does_nextPacket.mpr ⟨k, hk, hfree, rfl⟩

theorem StreamsOn.streamsRowsOf {shards : List ShardRows}
    (h : s.StreamsOn i (Merged.Of fun row => ∃ shard ∈ shards, row ∈ shard.cursor.rows)) :
    s.StreamsRowsOf i shards := by
  obtain ⟨k, hk, hon⟩ := h
  intro p hp
  obtain ⟨k', hk', -, hstage⟩ := does_nextPacket.mp hp
  obtain rfl : k = k' := Option.some.inj (hk.symm.trans hk')
  rcases RowStream.exists_row_of_nextPacket (fun rows hrows => Merged.within_value (hon rows hrows))
    (Stage.fetched.inj hstage) with hempty | ⟨row, ⟨shard, hshard, hrow⟩, hpacks⟩
  · exact .inl hempty
  · exact .inr ⟨shard, hshard, row, hrow, hpacks⟩

section Start

variable {m : Move} {responses : List ShardResponse} {rows : Merged}

/-- A start announces the merged columns, and puts the stream on the merged rows. -/
theorem Starts.announced (h : s.Starts i m responses rows) (hs : s.step m = some s') :
    ∃ k, s'.clients[i]? = some k ∧
      k.stage.answer? = some (.ofColumns (Dispatch.mergedColumns responses)) ∧
      k.portal.stream.state = .active rows := by
  obtain ⟨rfl, k, command, statement, hk, hstage, hreturned, hm⟩ := h
  obtain ⟨k', x, hk', hx, rfl⟩ := act_inv hs
  obtain rfl : k = k' := Option.some.inj (hk.symm.trans hk')
  simp only [Client.act, hstage, hreturned, Option.map_some, Option.some.injEq] at hx
  refine ⟨_, getElem?_acted hk x, ?_, ?_⟩
  · rw [← hx]
    exact congrArg some hm.announced
  · rw [← hx]
    show (Dispatch.reconcile statement responses k.portal.stream).2.state = _
    rw [hm.started]
    rfl

theorem Starts.streamsOn (h : s.Starts i m responses rows) (hs : s.step m = some s') :
    s'.StreamsOn i (Merged.Of fun row => ∃ shard ∈ Dispatch.rowsOf responses,
      row ∈ shard.cursor.rows) := by
  obtain ⟨k, hk, -, hstate⟩ := h.announced hs
  obtain ⟨-, _, _, statement, -, -, -, hm⟩ := h
  refine ⟨k, hk, fun rows' hrows => ?_⟩
  obtain rfl : rows = rows' := StreamState.active.inj (hstate.symm.trans hrows)
  exact Merge.of_merge (fun shard hshard row hrow => ⟨shard, hshard, hrow⟩) hm.merged

end Start

/-- What an answered execution leaves of the row stream, if it does not start it. -/
theorem closed_or_kept_of_answer {a : Act} {k k' : Client} (hs : s.step (.act i a) = some s')
    (hk : s.clients[i]? = some k) (hk' : s'.clients[i]? = some k')
    (hanswer : k'.stage.answer?.isSome = true)
    (hno : ∀ responses rows, ¬ s.Starts i (.act i a) responses rows) :
    k'.portal.stream.state = .closed ∨
      k'.portal.stream.state = k.portal.stream.state ∧ k'.stage.isFailed = false := by
  obtain ⟨k₀, x, hk₀, hx, rfl⟩ := act_inv hs
  obtain rfl : k = k₀ := Option.some.inj (hk.symm.trans hk₀)
  obtain rfl := Option.some.inj ((getElem?_acted hk x).symm.trans hk')
  cases Client.turn_of_act hx with
  | kept hstate hfailed => exact .inr ⟨hstate, hfailed⟩
  | closed hstate => exact .inl hstate
  | started ha hstage hreturned hm =>
    exact absurd ⟨congrArg _ ha, k, _, _, hk, hstage, hreturned, hm⟩ (hno _ _)
  | moved hstage | fetched hstage =>
    rw [hstage] at hanswer
    cases hanswer

/-- Rows are streamed of the execution that started the stream last. From an answer on, until the stream
is started again: if the answer started the stream, it announced the merged columns, and the rows that
are streamed are rows of its shards. If the execution failed, nothing is streamed. If the answer did not
announce a result set, nothing is streamed unless the stream was active before. And an answer that does
not start the stream closes it, or leaves it as it was. -/
theorem rows_of_answer {s₀ s₁ s₂ : Service} {i : Nat} {a : Act} {k₀ k₁ : Client} {packets : Response}
    {later : List Move} (hstep : s₀.step (.act i a) = some s₁) (hk₀ : s₀.clients[i]? = some k₀)
    (hk₁ : s₁.clients[i]? = some k₁) (hanswer : k₁.stage.answer? = some packets)
    (hrun : s₁.run? later = some s₂)
    (hno : ∀ t m, s₁.Takes later t m → ∀ responses rows, ¬ t.Starts i m responses rows) :
    (∀ responses rows, s₀.Starts i (.act i a) responses rows →
      packets = .ofColumns (Dispatch.mergedColumns responses) ∧
        s₂.StreamsRowsOf i (Dispatch.rowsOf responses)) ∧
    (∀ e, k₁.stage = .executed (.failed e) → s₂.Silent i) ∧
    ((∀ p, packets.head? ≠ some (.fieldCount p)) → k₀.portal.stream.state.isActive = false →
      s₂.Silent i) ∧
    ((∀ responses rows, ¬ s₀.Starts i (.act i a) responses rows) →
      k₁.portal.stream.state = .closed ∨ k₁.portal.stream.state = k₀.portal.stream.state) := by
  have hannounced : ∀ {responses rows}, s₀.Starts i (.act i a) responses rows →
      packets = .ofColumns (Dispatch.mergedColumns responses) := by
    intro responses rows h
    obtain ⟨k, hk, hpackets, -⟩ := h.announced hstep
    obtain rfl : k₁ = k := Option.some.inj (hk₁.symm.trans hk)
    exact Option.some.inj (hanswer.symm.trans hpackets)
  have hleft : (∀ responses rows, ¬ s₀.Starts i (.act i a) responses rows) → _ :=
    closed_or_kept_of_answer hstep hk₀ hk₁ (by rw [hanswer]; rfl)
  have hsilent : k₁.portal.stream.state.isActive = false → s₂.Silent i := fun h =>
    (StreamsOn.run (fun h _ => h) ⟨k₁, hk₁, RowStream.on_nothing_iff.mpr h⟩ hrun hno).silent
  refine ⟨fun responses rows h => ⟨hannounced h, ?_⟩, fun e he => ?_, fun hhead hbefore => ?_, fun h => ?_⟩
  · exact ((h.streamsOn hstep).run (Merged.shows _).keeps hrun hno).streamsRowsOf
  · have hnone : ∀ responses rows, ¬ s₀.Starts i (.act i a) responses rows := by
      intro responses rows h
      have hpackets := hannounced h
      rw [he] at hanswer
      rw [← Option.some.inj hanswer] at hpackets
      cases hpackets
    rcases hleft hnone with hclosed | ⟨-, hfailed⟩
    · exact hsilent (by rw [hclosed]; rfl)
    · rw [he] at hfailed
      cases hfailed
  · have hnone : ∀ responses rows, ¬ s₀.Starts i (.act i a) responses rows :=
      fun responses rows h => hhead _ (congrArg List.head? (hannounced h))
    rcases hleft hnone with hclosed | ⟨hkept, -⟩
    · exact hsilent (by rw [hclosed]; rfl)
    · exact hsilent (by rw [hkept, hbefore])
  · exact (hleft h).imp_right And.left

/-! ## Two executions -/

/-- A proxy with one statement, routed to one data source that yields `outcome`. -/
def single (outcome : Outcome) : Proxy :=
  let route : Route := ⟨.ofType .dql, [⟨"a", "SQL"⟩]⟩
  { Proxy.ofRouting .default (.sharding fun _ _ => .ok route) 1 with
    sources := ⟨[⟨0, "a", .yielding outcome⟩]⟩, statements := (Registry.empty.register "SQL").2 }

/-- How client 0 executes the statement by command `c`, until it is answered. -/
def executing (c : Nat) : List Move :=
  [.act 0 .execute, .act 0 .connect, .act 0 .prepare, .act 0 .submit, .event (.enqueue (c, 0)),
    .event (.grant (c, 0)), .event (.finish (c, 0)), .event (.join (c, 0)), .event (.collect c)]

def numbers : Outcome := .rows [.ofName "id" .longLong] (.ofRows [[.int 1], [.int 2]] none)

theorem rows_of_answer_numbers :
    ∃ s₀ s₁ s₂ responses rows,
      (ofProxy (single numbers)).run? (.enter 1 [] :: executing 0) = some s₀ ∧
      s₀.step (.act 0 .finish) = some s₁ ∧ s₁.run? [.act 0 .hasMore] = some s₂ ∧
      s₀.Starts 0 (.act 0 .finish) responses rows ∧
      Response.ofColumns [.ofName "id" .longLong] = .ofColumns (Dispatch.mergedColumns responses) ∧
      ∃ shard ∈ Dispatch.rowsOf responses, ∃ row ∈ shard.cursor.rows,
        row.reading.Packs [.longLong] 4 (.row ⟨4, [.int 1], [.longLong]⟩) := by
  have hrun : (((ofProxy (single numbers)).run? (.enter 1 [] :: executing 0)).bind fun s₀ =>
      (s₀.clients[0]?).bind fun k₀ => (s₀.step (.act 0 .finish)).bind fun s₁ =>
      (s₁.clients[0]?).bind fun k₁ => (s₁.run? [.act 0 .hasMore]).bind fun s₂ =>
      s₂.clients[0]?.map fun k₂ => (s₀, k₀, s₁, k₁, s₂, k₂)).any (fun r =>
        r.2.1.portal.stream.state.isActive = false ∧
        r.2.2.2.1.stage.answer? = some (.ofColumns [.ofName "id" .longLong]) ∧
        r.2.2.2.1.portal.stream.state.isActive = true ∧ r.2.2.2.2.2.stage.isFree = true ∧
        r.2.2.2.2.2.portal.stream.nextPacket.1 = .row ⟨4, [.int 1], [.longLong]⟩) = true := by
    decide +kernel
  obtain ⟨⟨s₀, k₀, s₁, k₁, s₂, k₂⟩, hr, hfacts⟩ := (Option.any_eq_true _ _).mp hrun
  obtain ⟨hbefore, hanswer, hactive, hfree, hrow⟩ := of_decide_eq_true hfacts
  obtain ⟨s₀', h₀, hr⟩ := Option.bind_eq_some_iff.mp hr
  obtain ⟨k₀', hk₀, hr⟩ := Option.bind_eq_some_iff.mp hr
  obtain ⟨s₁', h₁, hr⟩ := Option.bind_eq_some_iff.mp hr
  obtain ⟨k₁', hk₁, hr⟩ := Option.bind_eq_some_iff.mp hr
  obtain ⟨s₂', h₂, hr⟩ := Option.bind_eq_some_iff.mp hr
  obtain ⟨k₂', hk₂, hr⟩ := Option.map_eq_some_iff.mp hr
  cases hr
  have hstarts : ∃ responses rows, s₀.Starts 0 (.act 0 .finish) responses rows := by
    by_contra hno
    have hno := fun responses rows h => hno ⟨responses, rows, h⟩
    rcases closed_or_kept_of_answer h₁ hk₀ hk₁ (Option.isSome_of_eq_some hanswer) hno with
      hstate | ⟨hstate, -⟩
    · rw [hstate] at hactive
      cases hactive
    · rw [hstate, hbefore] at hactive
      cases hactive
  obtain ⟨responses, rows, hstarts⟩ := hstarts
  have hlater : ∀ t m, s₁.Takes [.act 0 .hasMore] t m →
      ∀ responses rows, ¬ t.Starts 0 m responses rows := by
    rintro t m htakes responses rows ⟨rfl, -⟩
    simpa using htakes.mem
  obtain ⟨hpackets, hstreams⟩ := (rows_of_answer h₁ hk₀ hk₁ hanswer h₂ hlater).1 _ _ hstarts
  have hdoes : s₂.Does 0 .nextPacket (.fetched (.row ⟨4, [.int 1], [.longLong]⟩)) :=
    does_nextPacket.mpr ⟨k₂, hk₂, hfree, congrArg Stage.fetched hrow⟩
  exact ⟨s₀, s₁, s₂, responses, rows, h₀, h₁, h₂, hstarts, hpackets,
    (hstreams _ hdoes).resolve_left (List.cons_ne_nil _ _)⟩

/-- Behind an answer that is an error there are rows of the execution before. -/
theorem rows_behind_error :
    let missing : BackendError := ⟨1146, "42S02", "Table 'a.t' doesn't exist"⟩
    let before : List Move := .enter 1 [] :: executing 0 ++
      [.act 0 .finish, .act 0 .hasMore, .act 0 .nextPacket, .adjust (single (.failure missing))] ++
      executing 1
    ∃ s₀ s₁ s₂ k,
      (ofProxy (single numbers)).run? before = some s₀ ∧ s₀.step (.act 0 .finish) = some s₁ ∧
      s₁.clients[0]? = some k ∧
      k.stage.answer? = some [.err ⟨1, 1146, "42S02", "Table 'a.t' doesn't exist"⟩] ∧
      s₁.Does 0 .hasMore (.moved (.ok true)) ∧ s₁.step (.act 0 .hasMore) = some s₂ ∧
      s₂.Does 0 .nextPacket (.fetched (.row ⟨5, [.int 2], [.longLong]⟩)) := by
  intro missing before
  have hrun : (((ofProxy (single numbers)).run? before).bind fun s₀ =>
      (s₀.step (.act 0 .finish)).bind fun s₁ => (s₁.clients[0]?).bind fun k₁ =>
      (s₁.step (.act 0 .hasMore)).bind fun s₂ => s₂.clients[0]?.map fun k₂ =>
        (s₀, s₁, k₁, s₂, k₂)).any (fun r =>
        r.2.2.1.stage.answer? = some [.err ⟨1, 1146, "42S02", "Table 'a.t' doesn't exist"⟩] ∧
        r.2.2.1.stage.isFree = true ∧ r.2.2.1.portal.stream.hasMore.outcome = .ok true ∧
        r.2.2.2.2.stage.isFree = true ∧
        r.2.2.2.2.portal.stream.nextPacket.1 = .row ⟨5, [.int 2], [.longLong]⟩) = true := by
    decide +kernel
  obtain ⟨⟨s₀, s₁, k₁, s₂, k₂⟩, hr, hfacts⟩ := (Option.any_eq_true _ _).mp hrun
  obtain ⟨hanswer, hfree₁, hmore, hfree₂, hrow⟩ := of_decide_eq_true hfacts
  obtain ⟨s₀', h₀, hr⟩ := Option.bind_eq_some_iff.mp hr
  obtain ⟨s₁', h₁, hr⟩ := Option.bind_eq_some_iff.mp hr
  obtain ⟨k₁', hk₁, hr⟩ := Option.bind_eq_some_iff.mp hr
  obtain ⟨s₂', h₂, hr⟩ := Option.bind_eq_some_iff.mp hr
  obtain ⟨k₂', hk₂, hr⟩ := Option.map_eq_some_iff.mp hr
  cases hr
  exact ⟨s₀, s₁, s₂, k₁, h₀, h₁, hk₁, hanswer,
    does_hasMore.mpr ⟨k₁, hk₁, hfree₁, congrArg Stage.moved hmore⟩, h₂,
    does_nextPacket.mpr ⟨k₂, hk₂, hfree₂, congrArg Stage.fetched hrow⟩⟩

end Service

end ShardProxy
