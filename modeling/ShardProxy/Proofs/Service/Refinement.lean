import ShardProxy.Proofs.Executor.Drive
import ShardProxy.Proofs.Lists
import ShardProxy.Proofs.Service.Acts

/-!
# Executing portals is a run of the service

`Proxy.executeAll` begins the executions of portals, lets the executor run on its schedule, and ends
those whose commands returned. Each of its steps is an act of the client that has the portal, or an
event of the executor, so that where it ends is the end of a run of the service (`runs_executeAll`).
-/

namespace ShardProxy.Service

/-- Client `i` has this portal and stands there. -/
def Stands (s : Service) (i : Nat) (stage : Stage) (portal : Portal) : Prop :=
  ∃ calls, s.clients[i]? = some ⟨portal, stage, calls⟩

/-- Client `i` has an execution that came so far. -/
def Executes (s : Service) (i : Nat) (e : Execution) : Prop := s.Stands i (.executed e.progress) e.portal

/-- `s'` is the service after a run in which none but the clients of a list act. -/
def Runs (s : Service) (is : List Nat) (s' : Service) : Prop :=
  (∃ moves, s.run? moves = some s') ∧ ∀ j ∉ is, s'.clients[j]? = s.clients[j]?

section Runs

variable {s s' s'' : Service} {is : List Nat} {i j : Nat}

theorem Runs.refl (s : Service) (is : List Nat) : s.Runs is s := ⟨⟨[], rfl⟩, fun _ _ => rfl⟩

theorem Runs.trans (h : s.Runs is s') (h' : s'.Runs is s'') : s.Runs is s'' := by
  obtain ⟨⟨moves, hmoves⟩, hsame⟩ := h
  obtain ⟨⟨more, hmore⟩, hsame'⟩ := h'
  refine ⟨⟨moves ++ more, ?_⟩, fun j hj => (hsame' j hj).trans (hsame j hj)⟩
  rw [run?_append, hmoves]
  exact hmore

theorem Runs.mono {js : List Nat} (h : s.Runs is s') (hsub : is ⊆ js) : s.Runs js s' :=
  ⟨h.1, fun j hj => h.2 j fun hmem => hj (hsub hmem)⟩

/-- A client that does not act stays where it is. -/
theorem Runs.stands (h : s.Runs is s') (hj : j ∉ is) {stage : Stage} {portal : Portal}
    (hstands : s.Stands j stage portal) : s'.Stands j stage portal := by
  obtain ⟨calls, hk⟩ := hstands
  exact ⟨calls, (h.2 j hj).trans hk⟩

/-- A run of one act. -/
theorem Stands.act {stage : Stage} {portal : Portal} (h : s.Stands i stage portal) (a : Act)
    {x : Stage × Portal × Proxy} (hx : ∀ calls, Client.act ⟨portal, stage, calls⟩ s.proxy a = some x) :
    ∃ s', s.Runs [i] s' ∧ s'.proxy = x.2.2 ∧ s'.Stands i x.1 x.2.1 := by
  obtain ⟨calls, hk⟩ := h
  refine ⟨s.acted i ⟨portal, stage, calls⟩ x, ⟨⟨[.act i a], ?_⟩, ?_⟩, rfl, ?_⟩
  · simp [run?, step, hk, hx]
  · intro j hj
    exact List.getElem?_set_ne fun hij => hj (by simp [hij])
  · have hi : i < s.clients.length := (List.getElem?_eq_some_iff.mp hk).1
    exact ⟨_, List.getElem?_set_self hi⟩

/-- A run of the executor. -/
theorem runs_events {system : System} {events : List Event}
    (h : s.proxy.system.run? events = some system) :
    s.Runs is { s with proxy := { s.proxy with system } } := by
  refine ⟨⟨events.map .event, ?_⟩, fun _ _ => rfl⟩
  induction events generalizing s with
  | nil =>
    cases h
    rfl
  | cons e events ih =>
    obtain ⟨system', he, h⟩ := Option.bind_eq_some_iff.mp h
    have hstep : s.step (.event e) = some { s with proxy := { s.proxy with system := system' } } := by
      rw [step, he]
      rfl
    rw [List.map_cons, run?, hstep]
    exact ih h

end Runs

/-! ## One execution -/

/-- What preparing the units that are left, with others ready, makes of an execution. -/
def launched (p : Proxy) (portal : Portal) (statement : Statement) (ready : List PreparedUnit)
    (prepared : Except ProxyError (List PreparedUnit) × Opened) : Execution × Proxy :=
  let (portal, p) := p.keep portal prepared.2
  match prepared.1 with
  | .error e => p.fail portal e
  | .ok units => p.submit portal statement (ready ++ units)

/-- Preparing the units of an execution and handing them over is a run. -/
theorem runs_launched {i : Nat} {statement : Statement} {units : List ExecutionUnit} :
    ∀ {s : Service} {ready : List PreparedUnit} {portal : Portal},
      s.Stands i (.preparing statement ready units) portal →
      let y := launched s.proxy portal statement ready
        (s.proxy.sources.prepareAll statement (s.proxy.opened portal) units)
      ∃ s', s.Runs [i] s' ∧ s'.proxy = y.2 ∧ s'.Executes i y.1 := by
  induction units with
  | nil =>
    intro s ready portal h y
    obtain ⟨s', hruns, hproxy, hstands⟩ :=
      h.act .submit (x := Client.settled (s.proxy.submit portal statement ready)) fun _ => rfl
    have hy : y = s.proxy.submit portal statement ready := by
      simp only [y, launched, Sources.prepareAll, List.append_nil]
      rfl
    rw [hy]
    exact ⟨s', hruns, hproxy, hstands⟩
  | cons unit units ih =>
    intro s ready portal h y
    rcases hconnect : s.proxy.sources.connect (s.proxy.opened portal) unit.dataSource
      with ⟨connection, opened⟩
    obtain ⟨s₁, hruns₁, hproxy₁, hstands₁⟩ := h.act .connect
      (x := Client.connect s.proxy portal statement ready unit units) fun _ => rfl
    cases connection with
    | error e =>
      have hy : y = (s.proxy.keep portal opened).2.fail (s.proxy.keep portal opened).1 e := by
        simp only [y, launched, Sources.prepareAll, Sources.prepare, hconnect]
      rw [Client.connect_error hconnect] at hproxy₁ hstands₁
      rw [hy]
      exact ⟨s₁, hruns₁, hproxy₁, hstands₁⟩
    | ok connection =>
      rw [Client.connect_ok hconnect] at hproxy₁ hstands₁
      rcases hprepare : opened.prepare connection unit statement with ⟨prepared, opened'⟩
      have hkept : ((s.proxy.keep portal opened).2.opened (s.proxy.keep portal opened).1).prepare
        connection unit statement = (prepared, opened') := hprepare
      obtain ⟨s₂, hruns₂, hproxy₂, hstands₂⟩ := hstands₁.act .prepare
        (x := Client.prepare s₁.proxy (s.proxy.keep portal opened).1 statement ready unit units
          connection) fun _ => rfl
      rw [hproxy₁] at hproxy₂ hstands₂
      cases prepared with
      | error e =>
        have hy : y = (s.proxy.keep portal opened').2.fail (s.proxy.keep portal opened').1 e := by
          simp only [y, launched, Sources.prepareAll, Sources.prepare, hconnect, hprepare]
        rw [Client.prepare_error hkept] at hproxy₂ hstands₂
        rw [hy]
        exact ⟨s₂, hruns₁.trans hruns₂, hproxy₂, hstands₂⟩
      | ok u =>
        rw [Client.prepare_ok hkept] at hproxy₂ hstands₂
        obtain ⟨s', hruns, hproxy, hexecutes⟩ := ih hstands₂
        rw [hproxy₂] at hproxy hexecutes
        have hy : y = launched (s.proxy.keep portal opened').2 (s.proxy.keep portal opened').1 statement
            (ready ++ [u]) (s.proxy.sources.prepareAll statement opened' units) := by
          simp only [y, launched, Sources.prepareAll, Sources.prepare, hconnect, hprepare]
          rcases s.proxy.sources.prepareAll statement opened' units with ⟨_ | us, opened''⟩
          · rfl
          · dsimp only
            rw [← List.append_cons]
            rfl
        rw [hy]
        exact ⟨s', (hruns₁.trans hruns₂).trans hruns, hproxy, hexecutes⟩

/-- What `start` does for a client that is free is a run. -/
theorem runs_start {s : Service} {i : Nat} {stage : Stage} {portal : Portal}
    (h : s.Stands i stage portal) (hfree : stage.isFree = true) :
    ∃ s', s.Runs [i] s' ∧ s'.proxy = (s.proxy.start portal).2.2 ∧
      s'.Executes i (s.proxy.start portal).1 := by
  obtain ⟨s₁, hruns, hproxy, hstands⟩ := h.act .execute (x := Client.execute s.proxy portal)
    fun calls => by simp [Client.act, hfree]
  unfold Client.execute at hproxy hstands
  unfold Proxy.start
  rcases hplan : s.proxy.plan portal with e | ⟨_ | ⟨sql, route⟩⟩ <;> rw [hplan] at hproxy hstands
  · exact ⟨s₁, hruns, hproxy, hstands⟩
  · exact ⟨s₁, hruns, hproxy, hstands⟩
  · obtain ⟨s', hruns', hproxy', hexecutes⟩ := runs_launched hstands
    rw [hproxy] at hproxy' hexecutes
    exact ⟨s', hruns.trans hruns', hproxy', hexecutes⟩

/-! ## Executions at the same time -/

/-- Executions that begin one after the other are a run. -/
theorem runs_startAll {is : List Nat} {portals : List Portal} (hnodup : is.Nodup) {s : Service}
    (h : List.Forall₂ (fun i portal => ∃ stage, stage.isFree = true ∧ s.Stands i stage portal)
      is portals) :
    ∃ s', s.Runs is s' ∧ s'.proxy = (s.proxy.startAll portals).2.2 ∧
      List.Forall₂ s'.Executes is (s.proxy.startAll portals).1 := by
  induction is generalizing s portals with
  | nil =>
    cases h
    exact ⟨s, .refl s [], rfl, .nil⟩
  | cons i is ih =>
    cases h with
    | @cons _ portal _ portals hi his =>
    obtain ⟨hnot, hnodup⟩ := List.nodup_cons.mp hnodup
    obtain ⟨stage, hfree, hstands⟩ := hi
    obtain ⟨s₁, hruns₁, hproxy₁, hexecutes₁⟩ := runs_start hstands hfree
    have his₁ : List.Forall₂ (fun i portal => ∃ stage, stage.isFree = true ∧ s₁.Stands i stage portal)
        is portals := by
      refine forall₂_of_imp his fun j hj portal => ?_
      rintro ⟨stage, hfree, hstands⟩
      exact ⟨stage, hfree, hruns₁.stands (by grind) hstands⟩
    obtain ⟨s', hruns', hproxy', hexecutes'⟩ := ih hnodup his₁
    rw [hproxy₁] at hproxy' hexecutes'
    refine ⟨s', (hruns₁.mono (by simp)).trans (hruns'.mono (by simp)), hproxy', ?_⟩
    exact .cons (hruns'.stands hnot hexecutes₁) hexecutes'

/-- Ending the execution that waits for a command, if the command has returned, is a run. -/
theorem runs_settleCommand {is : List Nat} {executions : List Execution} (hnodup : is.Nodup)
    {s : Service} (h : List.Forall₂ s.Executes is executions) (command : Nat) :
    ∃ s', s.Runs is s' ∧ s'.proxy = (s.proxy.settleCommand command executions).2 ∧
      List.Forall₂ s'.Executes is (s.proxy.settleCommand command executions).1 := by
  induction is generalizing s executions with
  | nil =>
    cases h
    exact ⟨s, .refl s [], rfl, .nil⟩
  | cons i is ih =>
    cases h with
    | @cons _ e _ executions hi his =>
    obtain ⟨hnot, hnodup⟩ := List.nodup_cons.mp hnodup
    have hothers : ∃ s', s.Runs (i :: is) s' ∧ s'.proxy = (s.proxy.settleCommand command executions).2 ∧
        List.Forall₂ s'.Executes (i :: is) (e :: (s.proxy.settleCommand command executions).1) := by
      obtain ⟨s', hruns, hproxy, hexecutes⟩ := ih hnodup his
      exact ⟨s', hruns.mono (by simp), hproxy, .cons (hruns.stands hnot hi) hexecutes⟩
    unfold Proxy.settleCommand
    split
    · next c statement answer hprogress hreturned =>
      split
      · next heq =>
        rw [Executes, hprogress] at hi
        obtain ⟨s', hruns, hproxy, hstands⟩ := hi.act .finish
          (x := Client.settled (s.proxy.finish e.portal statement answer))
          fun calls => by simp [Client.act, heq, hreturned]
        refine ⟨s', hruns.mono (by simp), hproxy, .cons hstands ?_⟩
        exact forall₂_of_imp his fun j hj f hf => hruns.stands (by grind) hf
      · exact hothers
    · exact hothers

theorem runs_settleCommands {is : List Nat} {executions : List Execution} (hnodup : is.Nodup)
    {s : Service} (h : List.Forall₂ s.Executes is executions) (commands : List Nat) :
    ∃ s', s.Runs is s' ∧ s'.proxy = (s.proxy.settleCommands executions commands).2 ∧
      List.Forall₂ s'.Executes is (s.proxy.settleCommands executions commands).1 := by
  induction commands generalizing s executions with
  | nil => exact ⟨s, .refl s is, rfl, h⟩
  | cons command commands ih =>
    obtain ⟨s₁, hruns₁, hproxy₁, hexecutes₁⟩ := runs_settleCommand hnodup h command
    obtain ⟨s', hruns', hproxy', hexecutes'⟩ := ih hexecutes₁
    rw [hproxy₁] at hproxy' hexecutes'
    exact ⟨s', hruns₁.trans hruns', hproxy', hexecutes'⟩

/-- What `executeAll` does for clients that are free is a run of the service. -/
theorem runs_executeAll {s : Service} {is : List Nat} {portals : List Portal} (hnodup : is.Nodup)
    (h : List.Forall₂ (fun i portal => ∃ stage, stage.isFree = true ∧ s.Stands i stage portal)
      is portals) (patience : Nat) :
    ∃ s', s.Runs is s' ∧ s'.proxy = (s.proxy.executeAll portals patience).2.2 ∧
      List.Forall₂ s'.Executes is (s.proxy.executeAll portals patience).1 := by
  obtain ⟨s₁, hruns₁, hproxy₁, hexecutes₁⟩ := runs_startAll hnodup h
  unfold Proxy.executeAll
  generalize s.proxy.startAll portals = started at hproxy₁ hexecutes₁ ⊢
  obtain ⟨executions, routed, p⟩ := started
  obtain rfl : s₁.proxy = p := hproxy₁
  obtain ⟨events, hevents⟩ := s₁.proxy.system.reaches_drive patience
  dsimp only at hexecutes₁ ⊢
  generalize s₁.proxy.system.drive patience = driven at hevents ⊢
  obtain ⟨system, order⟩ := driven
  have hruns₂ : s₁.Runs is { s₁ with proxy := { s₁.proxy with system } } := runs_events hevents
  obtain ⟨s', hruns', hproxy', hexecutes'⟩ := runs_settleCommands hnodup
    (s := { s₁ with proxy := { s₁.proxy with system } }) hexecutes₁ order
  exact ⟨s', (hruns₁.trans hruns₂).trans hruns', hproxy', hexecutes'⟩

/-! ## Dropping -/

/-- A client can always drop its portal, be it that it gives up an execution first. -/
theorem exists_dropped {s : Service} {i : Nat} {stage : Stage} {portal : Portal}
    (h : s.Stands i stage portal) : ∃ s' portal', s.Runs [i] s' ∧ s'.Stands i .dropped portal' := by
  have hdrop : ∀ {s : Service} {stage : Stage} {portal : Portal}, s.Stands i stage portal →
      stage.isFree = true → ∃ s' portal', s.Runs [i] s' ∧ s'.Stands i .dropped portal' := by
    intro s stage portal h hfree
    obtain ⟨s', hruns, -, hstands⟩ := h.act .drop
      (x := (.dropped, { portal with stream := portal.stream.close.2 }, s.proxy.drop portal))
      fun calls => by simp [Client.act, hfree]
    exact ⟨s', _, hruns, hstands⟩
  have hgiveUp : ∀ p : Proxy,
      (∀ calls, Client.act ⟨portal, stage, calls⟩ s.proxy .giveUp = some (.idle, portal, p)) →
        ∃ s' portal', s.Runs [i] s' ∧ s'.Stands i .dropped portal' := by
    intro p hact
    obtain ⟨s₁, hruns₁, -, hstands₁⟩ := h.act .giveUp hact
    obtain ⟨s', portal', hruns, hstands⟩ := hdrop hstands₁ rfl
    exact ⟨s', portal', hruns₁.trans hruns, hstands⟩
  cases stage with
  | idle | moved | fetched => exact hdrop h rfl
  | preparing | connected => exact hgiveUp s.proxy fun _ => rfl
  | executed progress =>
    cases progress with
    | answered | failed => exact hdrop h rfl
    | running command statement => exact hgiveUp _ fun _ => rfl
  | dropped => exact ⟨s, portal, .refl s [i], h⟩

end ShardProxy.Service
