import ShardProxy.Proofs.Executor.Calls
import ShardProxy.Proofs.Service

/-!
# What an act opens and closes

What a client can do is said once, by cases (`Step`). Every act leads from what is open for its client
to what is open then by calls of a ledger (`act_leads`), and one after which the client is done leaves
nothing open (`isEmpty_of_isDone`). The executor opens and closes nothing (`journal_of_step`).
-/

namespace ShardProxy

namespace RowStream

variable {σ : Type} [RowSource σ]

theorem leads_hasMore (r : RowStream σ) (j : Journal) :
    Opened.Leads ⟨r.resources, j⟩ r.hasMore.calls ⟨r.hasMore.stream.resources, j ++ r.hasMore.calls⟩ := by
  have hrest : Opened.Leads ⟨r.resources, j⟩ [] ⟨r.resources, j ++ []⟩ := by
    rw [List.append_nil]
    exact .refl _
  unfold hasMore
  split
  · split
    · exact hrest
    · exact Opened.leads_release r.resources j
    · exact Opened.leads_release r.resources j
  · exact Opened.leads_release r.resources j

/-- A stream that has no more rows, or fails to give one, holds nothing. -/
theorem isEmpty_hasMore (r : RowStream σ)
    (h : r.hasMore.outcome ≠ .ok true ∨ r.hasMore.stream.state = .exhausted) :
    r.hasMore.stream.resources.isEmpty = true := by
  unfold hasMore at h ⊢
  split at h
  · split at h
    · rcases h with h | h
      · exact absurd rfl h
      · cases h
    · exact r.isEmpty_releaseInto _
    · exact r.isEmpty_releaseInto _
  · exact r.isEmpty_releaseInto _

theorem resources_nextPacket (r : RowStream σ) : r.nextPacket.2.resources = r.resources := by
  unfold nextPacket
  split <;> rfl

end RowStream

theorem Dispatch.resources_reconcile (statement : Statement) (responses : List ShardResponse)
    (stream : RowStream Merged) :
    (reconcile statement responses stream).2.resources = stream.resources := by
  unfold reconcile
  split
  · rfl
  · unfold answer
    split
    · rfl
    · split
      · rfl
      · split
        · split
          · next packets stream' h =>
            unfold mergeRows at h
            split at h
            · cases h
            · next shards _ =>
              cases hmerge : Merge.merge shards statement with
              | error e =>
                rw [hmerge] at h
                cases h
              | ok rows =>
                rw [hmerge] at h
                cases h
                rfl
          · rfl
        · rfl

namespace Proxy

theorem leads_fail (p : Proxy) (portal : Portal) (e : ProxyError) :
    ∃ calls, (p.opened portal).Leads calls ((p.fail portal e).2.opened (p.fail portal e).1.portal) :=
  ⟨_, Opened.leads_release portal.stream.resources p.system.journal⟩

theorem isEmpty_fail (p : Proxy) (portal : Portal) (e : ProxyError) :
    (p.fail portal e).1.portal.stream.resources.isEmpty = true :=
  portal.stream.isEmpty_releaseInto .closed

theorem leads_hasMore (p : Proxy) (portal : Portal) :
    ∃ calls, (p.opened portal).Leads calls
      ((p.hasMore portal).2.2.opened (p.hasMore portal).2.1) :=
  ⟨_, portal.stream.leads_hasMore p.system.journal⟩

theorem leads_nextPacket (p : Proxy) (portal : Portal) :
    (p.opened portal).Leads [] (p.opened portal.nextPacket.2) := by
  have hsame : p.opened portal.nextPacket.2 = p.opened portal :=
    congrArg (Opened.mk · p.system.journal) portal.stream.resources_nextPacket
  rw [hsame]
  exact .refl _

theorem leads_finish (p : Proxy) (portal : Portal) (statement : Statement)
    (returned : Except Fault (List ShardResponse)) :
    ∃ calls, (p.opened portal).Leads calls
      ((p.finish portal statement returned).2.opened (p.finish portal statement returned).1.portal) := by
  cases returned with
  | error fault => exact p.leads_fail portal _
  | ok responses =>
    refine ⟨[], ?_⟩
    have hsame : (p.finish portal statement (.ok responses)).2.opened
        (p.finish portal statement (.ok responses)).1.portal = p.opened portal := by
      simp only [finish, opened, Dispatch.resources_reconcile]
    rw [hsame]
    exact .refl _

/-- An execution that fails at its end leaves nothing open. -/
theorem isEmpty_finish (p : Proxy) (portal : Portal) (statement : Statement)
    {returned : Except Fault (List ShardResponse)} {e : ProxyError}
    (h : (p.finish portal statement returned).1.progress = .failed e) :
    (p.finish portal statement returned).1.portal.stream.resources.isEmpty = true := by
  cases returned with
  | error fault => exact p.isEmpty_fail portal _
  | ok responses => cases h

end Proxy

namespace Client

/-- What a client can do, and where it leads. -/
inductive Step (k : Client) (p : Proxy) : Stage × Portal × Proxy → Prop
  | execute : k.stage.isFree = true → Step k p (execute p k.portal)
  | connect {statement : Statement} {ready : List PreparedUnit} {unit : ExecutionUnit}
      {units : List ExecutionUnit} : k.stage = .preparing statement ready (unit :: units) →
      Step k p (connect p k.portal statement ready unit units)
  | prepare {statement : Statement} {ready : List PreparedUnit} {unit : ExecutionUnit}
      {units : List ExecutionUnit} {connection : Connection} :
      k.stage = .connected statement ready unit units connection →
      Step k p (prepare p k.portal statement ready unit units connection)
  | submit {statement : Statement} {ready : List PreparedUnit} :
      k.stage = .preparing statement ready [] →
      Step k p (settled (p.submit k.portal statement ready))
  | finish {command : Nat} {statement : Statement} {answer : Except Fault (List ShardResponse)} :
      k.stage = .executed (.running command statement) → p.returned? command = some answer →
      Step k p (settled (p.finish k.portal statement answer))
  | giveUp : k.stage.isFree = false → Step k p (.idle, k.portal, p)
  | abandon {command : Nat} {statement : Statement} :
      k.stage = .executed (.running command statement) →
      Step k p (.idle, k.portal, { p with system := p.system.apply (.abandon command) })
  | hasMore : k.stage.isFree = true →
      Step k p (.moved (p.hasMore k.portal).1, (p.hasMore k.portal).2.1, (p.hasMore k.portal).2.2)
  | nextPacket : k.stage.isFree = true →
      Step k p (.fetched k.portal.nextPacket.1, k.portal.nextPacket.2, p)
  | drop : k.stage.isFree = true →
      Step k p (.dropped, { k.portal with stream := k.portal.stream.close.2 }, p.drop k.portal)

theorem step_of_act {k : Client} {p : Proxy} {a : Act} {x : Stage × Portal × Proxy}
    (h : k.act p a = some x) : k.Step p x := by
  unfold act at h
  split at h
  · next statement ready unit units hstage =>
    cases h
    exact .connect hstage
  · next statement ready unit units connection hstage =>
    cases h
    exact .prepare hstage
  · next statement ready hstage =>
    cases h
    exact .submit hstage
  · next command statement hstage =>
    obtain ⟨answer, hanswer, rfl⟩ := Option.map_eq_some_iff.mp h
    exact .finish hstage hanswer
  · next hstage =>
    cases h
    exact .giveUp (by rw [hstage]; rfl)
  · next hstage =>
    cases h
    exact .giveUp (by rw [hstage]; rfl)
  · next command statement hstage =>
    cases h
    exact .abandon hstage
  · obtain ⟨hfree, h⟩ := Option.ite_none_right_eq_some.mp h
    cases h
    exact .execute hfree
  · obtain ⟨hfree, h⟩ := Option.ite_none_right_eq_some.mp h
    cases h
    exact .hasMore hfree
  · obtain ⟨hfree, h⟩ := Option.ite_none_right_eq_some.mp h
    cases h
    exact .nextPacket hfree
  · obtain ⟨hfree, h⟩ := Option.ite_none_right_eq_some.mp h
    cases h
    exact .drop hfree
  · cases h

section Acting

variable {k : Client} {p : Proxy} {x : Stage × Portal × Proxy}

theorem act_execute (h : k.act p .execute = some x) : x = execute p k.portal := by
  simp only [act, Option.ite_none_right_eq_some, Option.some.injEq] at h
  exact h.2.symm

theorem act_connect (h : k.act p .connect = some x) :
    ∃ statement ready unit units, k.stage = .preparing statement ready (unit :: units) ∧
      x = connect p k.portal statement ready unit units := by
  cases hstage : k.stage with
  | preparing statement ready units =>
    cases units with
    | nil => simp [act, hstage] at h
    | cons unit units =>
      simp only [act, hstage, Option.some.injEq] at h
      exact ⟨statement, ready, unit, units, rfl, h.symm⟩
  | idle | connected | executed | moved | fetched | dropped => simp [act, hstage] at h

theorem act_prepare (h : k.act p .prepare = some x) :
    ∃ statement ready unit units c, k.stage = .connected statement ready unit units c ∧
      x = prepare p k.portal statement ready unit units c := by
  cases hstage : k.stage with
  | connected statement ready unit units c =>
    simp only [act, hstage, Option.some.injEq] at h
    exact ⟨statement, ready, unit, units, c, rfl, h.symm⟩
  | preparing | idle | executed | moved | fetched | dropped => simp [act, hstage] at h

theorem act_submit (h : k.act p .submit = some x) :
    ∃ statement ready, k.stage = .preparing statement ready [] ∧
      x = settled (p.submit k.portal statement ready) := by
  cases hstage : k.stage with
  | preparing statement ready units =>
    cases units with
    | nil =>
      simp only [act, hstage, Option.some.injEq] at h
      exact ⟨statement, ready, rfl, h.symm⟩
    | cons unit units => simp [act, hstage] at h
  | idle | connected | executed | moved | fetched | dropped => simp [act, hstage] at h

/-- While its command runs, a client takes what the command returns, or gives it up. -/
theorem act_of_running {a : Act} (h : k.act p a = some x) {command : Nat} {statement : Statement}
    (hstage : k.stage = .executed (.running command statement)) :
    (∃ answer, p.returned? command = some answer ∧
        x = settled (p.finish k.portal statement answer)) ∨
      x = (.idle, k.portal, { p with system := p.system.apply (.abandon command) }) := by
  cases a with
  | finish =>
    simp only [act, hstage, Option.map_eq_some_iff] at h
    obtain ⟨answer, hanswer, rfl⟩ := h
    exact .inl ⟨answer, hanswer, rfl⟩
  | giveUp =>
    simp only [act, hstage, Option.some.injEq] at h
    exact .inr h.symm
  | execute | connect | prepare | submit | hasMore | nextPacket | drop =>
    simp [act, hstage, Stage.isFree] at h

/-- What a client is answered when its command has returned: the failure of an execution is that of the
infrastructure. -/
theorem act_finish (h : k.act p .finish = some x) :
    ∃ command statement answer, k.stage = .executed (.running command statement) ∧
      p.returned? command = some answer ∧
      ((∃ responses packets, answer = .ok responses ∧ x.1 = .executed (.answered packets)) ∨
        ∃ fault, answer = .error fault ∧ x.1 = .executed (.failed (.infrastructure fault))) := by
  cases hstage : k.stage with
  | executed progress =>
    cases progress with
    | running command statement =>
      simp only [act, hstage, Option.map_eq_some_iff] at h
      obtain ⟨answer, hanswer, rfl⟩ := h
      refine ⟨command, statement, answer, rfl, hanswer, ?_⟩
      cases answer with
      | ok responses => exact .inl ⟨responses, _, rfl, rfl⟩
      | error fault => exact .inr ⟨fault, rfl, rfl⟩
    | answered | failed => simp [act, hstage] at h
  | idle | preparing | connected | moved | fetched | dropped => simp [act, hstage] at h

end Acting

section Opening

variable {p : Proxy} {portal : Portal} {statement : Statement} {ready : List PreparedUnit}
  {unit : ExecutionUnit} {units : List ExecutionUnit} {connection : Connection} {o : Opened}
  {e : ProxyError}

theorem connect_ok (h : p.sources.connect (p.opened portal) unit.dataSource = (.ok connection, o)) :
    connect p portal statement ready unit units =
      (.connected statement ready unit units connection, p.keep portal o) := by
  rw [connect, h]

theorem connect_error (h : p.sources.connect (p.opened portal) unit.dataSource = (.error e, o)) :
    connect p portal statement ready unit units =
      settled ((p.keep portal o).2.fail (p.keep portal o).1 e) := by
  rw [connect, h]

theorem prepare_ok {u : PreparedUnit}
    (h : (p.opened portal).prepare connection unit statement = (.ok u, o)) :
    prepare p portal statement ready unit units connection =
      (.preparing statement (ready ++ [u]) units, p.keep portal o) := by
  rw [prepare, h]

theorem prepare_error (h : (p.opened portal).prepare connection unit statement = (.error e, o)) :
    prepare p portal statement ready unit units connection =
      settled ((p.keep portal o).2.fail (p.keep portal o).1 e) := by
  rw [prepare, h]

end Opening

theorem leads_execute (p : Proxy) (portal : Portal) :
    ∃ calls, (p.opened portal).Leads calls ((execute p portal).2.2.opened (execute p portal).2.1) := by
  unfold execute
  split
  · next e _ => exact p.leads_fail portal e
  · exact ⟨[], .refl _⟩
  · exact ⟨[], .refl _⟩

theorem leads_connect (p : Proxy) (portal : Portal) (statement : Statement)
    (ready : List PreparedUnit) (unit : ExecutionUnit) (units : List ExecutionUnit) :
    ∃ calls, (p.opened portal).Leads calls
      ((connect p portal statement ready unit units).2.2.opened
        (connect p portal statement ready unit units).2.1) := by
  obtain ⟨calls, h⟩ := Opened.leads_connect p.sources (p.opened portal) unit.dataSource
  rcases hconnect : p.sources.connect (p.opened portal) unit.dataSource with ⟨e | c, o⟩ <;>
    rw [hconnect] at h
  · obtain ⟨more, h'⟩ := (p.keep portal o).2.leads_fail (p.keep portal o).1 e
    rw [connect_error hconnect]
    exact ⟨calls ++ more, h.trans h'⟩
  · rw [connect_ok hconnect]
    exact ⟨calls, h⟩

theorem leads_prepare (p : Proxy) (portal : Portal) (statement : Statement)
    (ready : List PreparedUnit) (unit : ExecutionUnit) (units : List ExecutionUnit)
    (connection : Connection) :
    ∃ calls, (p.opened portal).Leads calls
      ((prepare p portal statement ready unit units connection).2.2.opened
        (prepare p portal statement ready unit units connection).2.1) := by
  obtain ⟨calls, h⟩ := (p.opened portal).leads_prepare connection unit statement
  rcases hprepare : (p.opened portal).prepare connection unit statement with ⟨e | u, o⟩ <;>
    rw [hprepare] at h
  · obtain ⟨more, h'⟩ := (p.keep portal o).2.leads_fail (p.keep portal o).1 e
    rw [prepare_error hprepare]
    exact ⟨calls ++ more, h.trans h'⟩
  · rw [prepare_ok hprepare]
    exact ⟨calls, h⟩

theorem isEmpty_execute {p : Proxy} {portal : Portal} {calls : List Call}
    (hdone : isDone ⟨(execute p portal).2.1, (execute p portal).1, calls⟩ = true) :
    (execute p portal).2.1.stream.resources.isEmpty = true := by
  unfold execute at hdone ⊢
  split at hdone
  · next e _ => exact p.isEmpty_fail portal e
  · cases hdone
  · cases hdone

theorem isEmpty_connect {p : Proxy} {portal : Portal} {statement : Statement}
    {ready : List PreparedUnit} {unit : ExecutionUnit} {units : List ExecutionUnit}
    {calls : List Call}
    (hdone : isDone ⟨(connect p portal statement ready unit units).2.1,
      (connect p portal statement ready unit units).1, calls⟩ = true) :
    (connect p portal statement ready unit units).2.1.stream.resources.isEmpty = true := by
  rcases hconnect : p.sources.connect (p.opened portal) unit.dataSource with ⟨e | c, o⟩
  · rw [connect_error hconnect]
    exact (p.keep portal o).2.isEmpty_fail (p.keep portal o).1 e
  · rw [connect_ok hconnect] at hdone
    cases hdone

theorem isEmpty_prepare {p : Proxy} {portal : Portal} {statement : Statement}
    {ready : List PreparedUnit} {unit : ExecutionUnit} {units : List ExecutionUnit}
    {connection : Connection} {calls : List Call}
    (hdone : isDone ⟨(prepare p portal statement ready unit units connection).2.1,
      (prepare p portal statement ready unit units connection).1, calls⟩ = true) :
    (prepare p portal statement ready unit units connection).2.1.stream.resources.isEmpty = true := by
  rcases hprepare : (p.opened portal).prepare connection unit statement with ⟨e | u, o⟩
  · rw [prepare_error hprepare]
    exact (p.keep portal o).2.isEmpty_fail (p.keep portal o).1 e
  · rw [prepare_ok hprepare] at hdone
    cases hdone

theorem isEmpty_settled_finish {p : Proxy} {portal : Portal} {statement : Statement}
    {returned : Except Fault (List ShardResponse)} {calls : List Call}
    (hdone : isDone ⟨(p.finish portal statement returned).1.portal,
      .executed (p.finish portal statement returned).1.progress, calls⟩ = true) :
    (p.finish portal statement returned).1.portal.stream.resources.isEmpty = true := by
  cases h : (p.finish portal statement returned).1.progress with
  | failed e => exact p.isEmpty_finish portal statement h
  | answered packets =>
    rw [h] at hdone
    cases hdone
  | running command statement =>
    rw [h] at hdone
    cases hdone

theorem isEmpty_hasMore {p : Proxy} {portal : Portal} {calls : List Call}
    (hdone : isDone ⟨(p.hasMore portal).2.1, .moved (p.hasMore portal).1, calls⟩ = true) :
    (p.hasMore portal).2.1.stream.resources.isEmpty = true := by
  apply portal.stream.isEmpty_hasMore
  by_cases hmore : portal.stream.hasMore.outcome = .ok true
  · right
    simp only [isDone, Proxy.hasMore, hmore] at hdone
    split at hdone
    · next hstate => exact hstate
    · cases hdone
  · exact .inl hmore

theorem opened_abandon (p : Proxy) (portal : Portal) (command : Nat) :
    Proxy.opened { p with system := p.system.apply (.abandon command) } portal = p.opened portal := by
  have hjournal : (p.system.apply (.abandon command)).journal = p.system.journal := by
    unfold System.apply
    cases h : p.system.step (.abandon command) with
    | none => rfl
    | some s =>
      obtain ⟨k, -, -, rfl⟩ := System.abandon_inv h
      rfl
  rw [Proxy.opened, hjournal]
  rfl

/-- What an act does to the backends is a ledger of its client's resources. -/
theorem act_leads {k : Client} {p : Proxy} {a : Act} {x : Stage × Portal × Proxy}
    (h : k.act p a = some x) : ∃ calls, (p.opened k.portal).Leads calls (x.2.2.opened x.2.1) := by
  cases step_of_act h with
  | execute => exact leads_execute ..
  | connect => exact leads_connect ..
  | prepare => exact leads_prepare ..
  | submit | giveUp => exact ⟨[], .refl _⟩
  | finish => exact p.leads_finish ..
  | abandon => exact ⟨[], opened_abandon p k.portal _ ▸ .refl _⟩
  | hasMore => exact p.leads_hasMore k.portal
  | nextPacket => exact ⟨[], p.leads_nextPacket k.portal⟩
  | drop => exact ⟨_, Opened.leads_release k.portal.stream.resources p.system.journal⟩

/-- Nothing is open for a client that is done. -/
theorem isEmpty_of_isDone {k : Client} {p : Proxy} {a : Act} {x : Stage × Portal × Proxy}
    {calls : List Call} (h : k.act p a = some x) (hdone : isDone ⟨x.2.1, x.1, calls⟩ = true) :
    x.2.1.stream.resources.isEmpty = true := by
  cases step_of_act h with
  | execute => exact isEmpty_execute hdone
  | connect => exact isEmpty_connect hdone
  | prepare => exact isEmpty_prepare hdone
  | submit | giveUp | abandon | nextPacket => cases hdone
  | finish => exact isEmpty_settled_finish hdone
  | hasMore => exact isEmpty_hasMore hdone
  | drop => exact k.portal.stream.isEmpty_releaseInto .closed

end Client

/-! ## The executor -/

theorem Noted.isExecution {p : Prepared} {b b' : Bool} {calls : Journal} (h : Noted p b b' calls) :
    ∀ call ∈ calls, call.isExecution = true := by
  cases h with
  | silent => exact List.forall_mem_nil _
  | started | finished | dropped => exact List.forall_mem_singleton.mpr rfl

theorem Command.Notes.isExecution {k k' : Command} {calls : Journal} (h : k.Notes k' calls) :
    ∀ call ∈ calls, call.isExecution = true := by
  cases h with
  | rest => exact List.forall_mem_nil _
  | task _ _ hnoted => exact hnoted.isExecution

/-- What the executor writes into the journal is about executions. -/
theorem System.journal_of_step {s s' : System} {e : Event} (h : s.step e = some s') :
    ∃ calls, s'.journal = s.journal ++ calls ∧ ∀ call ∈ calls, call.isExecution = true := by
  cases he : e.command? with
  | none => exact ⟨[], by rw [journal_of_none h he, List.append_nil], List.forall_mem_nil _⟩
  | some c =>
    obtain ⟨k, k', calls, -, -, hj, hnotes⟩ := notes_step h he
    exact ⟨calls, hj, hnotes.isExecution⟩

end ShardProxy
