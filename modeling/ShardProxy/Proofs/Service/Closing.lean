import ShardProxy.Proofs.Executor.Deadline
import ShardProxy.Proofs.Executor.Drive
import ShardProxy.Proofs.Service.Release

/-!
# A command's end, and what is closed then

Whatever goes wrong, a command returns a response for every unit or a fault, and when it returns
nothing of it is left at the executor. A client that waits for its command can do nothing but take what
the command returns or give it up, and nobody else closes what was opened for the client. So nothing is
closed while an execution that it is for is in progress, unless the command was given up:

    x is closed,  x was opened for the client of c,  c not given up   →   the tasks of c are settled
-/

namespace ShardProxy

/-! ## A command that returns -/

namespace System

variable {size : Nat} {events : List Event} {s : System} {c : Nat}
  {answer : Except Fault (List ShardResponse)}

theorem returned_of_answer? (ha : s.answer? c = some answer) :
    ∃ k, s.command? c = some k ∧ k.state = .returned answer := by
  obtain ⟨k, hk, ha⟩ := Option.bind_eq_some_iff.mp ha
  refine ⟨k, hk, ?_⟩
  cases hstate : k.state with
  | returned answer' =>
    rw [hstate] at ha
    rw [Option.some.inj ha]
  | gathering | stopping | abandoned =>
    rw [hstate] at ha
    cases ha

/-- What a command returns: a response for every unit, or a fault. -/
theorem answer_eq_or_fault (h : (ofPool size).run? events = some s) {units : List PreparedUnit}
    {parameters : List Value} {limit : Option Duration}
    (hasked : (events.filterMap (·.request?))[c]? = some (units, parameters, limit))
    (ha : s.answer? c = some answer) :
    answer = .ok (units.map (·.response)) ∨ ∃ fault, answer = .error fault := by
  obtain ⟨k, hk, hstate⟩ := returned_of_answer? ha
  obtain ⟨k', hk', hrequest⟩ := command_of_asked h hasked
  obtain rfl : k = k' := Option.some.inj (hk.symm.trans hk')
  cases answer with
  | error fault => exact .inr ⟨fault, rfl⟩
  | ok responses =>
    have hunits : k.units = units := congrArg Prod.fst hrequest
    rw [(sound_of_run h hk).complete responses hstate, hunits]
    exact .inl rfl

/-- Nothing is left at the executor of a command that has returned. -/
theorem settled_of_answer? (h : (ofPool size).run? events = some s) (ha : s.answer? c = some answer) :
    (∀ i task, s.task? (c, i) = some task →
      task.state.isLive = false ∧ task.state.holdsPermit = false) ∧
    ∀ i, (c, i) ∉ s.pool.queue := by
  obtain ⟨k, hk, hstate⟩ := returned_of_answer? ha
  have hsettled := (sound_of_run h hk).settled answer hstate
  have htask : ∀ i task, s.task? (c, i) = some task → task.state.isSettled = true := by
    intro i task ht
    obtain ⟨k', hk', hi⟩ := task?_eq_some ht
    obtain rfl : k = k' := Option.some.inj (hk.symm.trans hk')
    exact hsettled task (List.mem_of_getElem? hi)
  refine ⟨fun i task ht => TaskState.not_of_isSettled (htask i task ht), fun i hi => ?_⟩
  obtain ⟨task, ht, hwaiting⟩ := (((poolSound_ofPool size).run h).mem_queue (c, i)).mp hi
  have := htask i task ht
  rw [hwaiting] at this
  cases this

/-- Every execution that a command has started has ended when it has returned. -/
theorem balance_of_answer? (h : (ofPool size).run? events = some s) (ha : s.answer? c = some answer)
    (q : Prepared → Bool) :
    ((ofPool size).callsOf c events).countP (Call.starts q) =
      ((ofPool size).callsOf c events).countP (Call.finishes q) +
        ((ofPool size).callsOf c events).countP (Call.drops q) := by
  obtain ⟨k, hk, hstate⟩ := returned_of_answer? ha
  have hbalance := balance_callsOf h c q
  have hnone : s.running q c = 0 := by
    rw [running, hk]
    exact ((sound_of_run h hk).settled answer hstate).running q
  have hfirst : (ofPool size).running q c = 0 := rfl
  rw [hnone, hfirst] at hbalance
  unfold Journal.Balance at hbalance
  omega

/-- A command that was given up is over. -/
theorem over_of_abandon {k : Command} (hk : s.command? c = some k) :
    ∃ k', (s.apply (.abandon c)).command? c = some k' ∧ k'.state.isOver = true := by
  cases hover : k.state.isOver with
  | true =>
    have hnone : s.step (.abandon c) = none := by simp [step, hk, hover]
    rw [apply, hnone, Option.getD_none]
    exact ⟨k, hk, hover⟩
  | false =>
    have hsome : s.step (.abandon c) =
        some (s.modifyCommand c fun k => { k with state := .abandoned }) := by
      simp [step, hk, hover]
    rw [apply, hsome, Option.getD_some, command?_modifyCommand_self, hk]
    exact ⟨_, rfl, rfl⟩

end System

/-! ## Acts of a client -/

/-- The units that an execution has prepared and not handed to the executor. -/
def Stage.ready : Stage → List PreparedUnit
  | preparing _ ready _ | connected _ ready .. => ready
  | idle | executed _ | moved _ | fetched _ | dropped => []

namespace Client

variable {k : Client} {p : Proxy} {x : Stage × Portal × Proxy}

/-- The units that are prepared for an execution stand in the journal, and the last was put there by
the act that prepared it. -/
theorem prepared_of_act {a : Act} (h : k.act p a = some x) {u : PreparedUnit} (hu : u ∈ x.1.ready) :
    u ∈ k.stage.ready ∨
      .statement u.statement ∈ Journal.opened (x.2.2.system.journal.drop p.system.journal.length) := by
  cases step_of_act h with
  | execute =>
    unfold execute at hu
    split at hu <;> cases hu
  | @connect statement ready unit units hstage =>
    rcases hconnect : p.sources.connect (p.opened k.portal) unit.dataSource with ⟨e | c, o⟩
    · rw [connect_error hconnect] at hu
      cases hu
    · rw [connect_ok hconnect] at hu
      exact .inl (hstage ▸ hu)
  | @prepare statement ready unit units connection hstage =>
    rcases hprepare : (p.opened k.portal).prepare connection unit statement with ⟨e | u', o⟩
    · rw [prepare_error hprepare] at hu
      cases hu
    · rw [prepare_ok hprepare] at hu ⊢
      rcases List.mem_append.mp hu with hu | hu
      · exact .inl (hstage ▸ hu)
      · obtain rfl := List.mem_singleton.mp hu
        have hjournal : o.journal = p.system.journal ++ [.prepared u.statement _ _] :=
          Opened.journal_of_prepare hprepare
        right
        show _ ∈ Journal.opened (o.journal.drop p.system.journal.length)
        rw [hjournal, List.drop_left]
        exact List.mem_singleton.mpr rfl
  | submit | finish | giveUp | abandon | hasMore | nextPacket | drop => cases hu

theorem commands_finish (p : Proxy) (portal : Portal) (statement : Statement)
    (answer : Except Fault (List ShardResponse)) :
    (p.finish portal statement answer).2.system.commands = p.system.commands := by
  cases answer <;> rfl

theorem commands_execute (p : Proxy) (portal : Portal) :
    (execute p portal).2.2.system.commands = p.system.commands := by
  unfold execute
  split <;> rfl

theorem commands_connect (p : Proxy) (portal : Portal) (statement : Statement)
    (ready : List PreparedUnit) (unit : ExecutionUnit) (units : List ExecutionUnit) :
    (connect p portal statement ready unit units).2.2.system.commands = p.system.commands := by
  unfold connect
  split
  next connection opened _ => cases connection <;> rfl

theorem commands_prepare (p : Proxy) (portal : Portal) (statement : Statement)
    (ready : List PreparedUnit) (unit : ExecutionUnit) (units : List ExecutionUnit)
    (connection : Connection) :
    (prepare p portal statement ready unit units connection).2.2.system.commands =
      p.system.commands := by
  unfold prepare
  split
  next prepared opened _ => cases prepared <;> rfl

end Client

namespace Service

variable {s s' : Service} {m : Move}

/-- A move does to the commands what some events do, or none. -/
theorem commands_of_move (h : s.step m = some s') :
    ∃ system, s.proxy.system.Reaches system ∧ s'.proxy.system.commands = system.commands := by
  cases m with
  | enter | adjust =>
    cases h
    exact ⟨_, .refl _, rfl⟩
  | event e =>
    obtain ⟨system, he, rfl⟩ := Option.map_eq_some_iff.mp h
    exact ⟨system, .of_step he, rfl⟩
  | act i a =>
    obtain ⟨k, x, -, hx, rfl⟩ := act_inv h
    have hsame := System.Reaches.refl s.proxy.system
    cases Client.step_of_act hx with
    | submit => exact ⟨_, hsame.apply (.submit _ _ _), rfl⟩
    | abandon => exact ⟨_, hsame.apply (.abandon _), rfl⟩
    | execute => exact ⟨_, hsame, Client.commands_execute ..⟩
    | connect => exact ⟨_, hsame, Client.commands_connect ..⟩
    | prepare => exact ⟨_, hsame, Client.commands_prepare ..⟩
    | finish => exact ⟨_, hsame, Client.commands_finish ..⟩
    | giveUp | nextPacket | hasMore | drop => exact ⟨_, hsame, rfl⟩

theorem command?_of_commands_eq {t t' : System} (h : t'.commands = t.commands) (c : Nat) :
    t'.command? c = t.command? c := by
  rw [System.command?, h]
  rfl

/-- Every command of a service is sound. -/
theorem sound_of_moves {p : Proxy} {size : Nat} (start : p.system = .ofPool size) {moves : List Move}
    (run : (ofProxy p).run? moves = some s) {c : Nat} {k : Command}
    (hk : s.proxy.system.command? c = some k) : k.Sound := by
  refine keeps_run (J := fun s => ∀ c k, s.proxy.system.command? c = some k → k.Sound)
    (fun {s s' m} hsound hm c k hk => ?_) (fun c k hk => ?_) run c k hk
  · obtain ⟨system, ⟨events, hevents⟩, hcommands⟩ := commands_of_move hm
    rw [command?_of_commands_eq hcommands] at hk
    exact System.forall_sound_of_run hevents hsound c k hk
  · have hproxy : (ofProxy p).proxy.system = .ofPool size := start
    rw [hproxy] at hk
    cases hk

/-- What no event takes away from a command, no move does. -/
theorem command_of_move {P : Command → Prop} (hstep : ∀ {closed k k'}, P k → k.Step closed k' → P k')
    (habandon : ∀ {k : Command}, P k → k.state.isOver = false → P { k with state := .abandoned })
    (h : s.step m = some s') {c : Nat} {k : Command} (hk : s.proxy.system.command? c = some k)
    (hP : P k) : ∃ k', s'.proxy.system.command? c = some k' ∧ P k' := by
  obtain ⟨system, ⟨events, hevents⟩, hcommands⟩ := commands_of_move h
  obtain ⟨k', hk', hP'⟩ := System.command_of_run hstep habandon hevents hk hP
  exact ⟨k', by rw [command?_of_commands_eq hcommands, hk'], hP'⟩

/-- A command that is over stays over. -/
theorem over_of_move (h : s.step m = some s') {c : Nat} {k : Command}
    (hk : s.proxy.system.command? c = some k) (hover : k.state.isOver = true) :
    ∃ k', s'.proxy.system.command? c = some k' ∧ k'.state.isOver = true := by
  refine command_of_move (P := fun k => k.state.isOver = true) (fun hP hs => ?_) (fun _ _ => rfl) h hk
    hover
  obtain ⟨i, t, state, -, -, rfl⟩ := hs.of_isOver hP
  exact hP

/-- A client stays, with all that was opened for it. -/
theorem client_of_move (h : s.step m = some s') {i : Nat} {client : Client}
    (hclient : s.clients[i]? = some client) :
    ∃ client', s'.clients[i]? = some client' ∧ client.calls.opened ⊆ client'.calls.opened := by
  rcases client_of_step h hclient with hsame | ⟨a, x, -, -, rfl⟩
  · exact ⟨client, hsame, List.Subset.refl _⟩
  · refine ⟨_, getElem?_acted hclient x, ?_⟩
    rw [Journal.opened_append]
    exact List.subset_append_left _ _

/-! ## What a command runs on -/

/-- The units that a client has prepared are on statements that were opened for it. -/
def Provided (s : Service) : Prop :=
  ∀ client ∈ s.clients, ∀ u ∈ client.stage.ready, .statement u.statement ∈ client.calls.opened

theorem Provided.step (h : s.Provided) (hs : s.step m = some s') : s'.Provided := by
  cases m with
  | enter =>
    cases hs
    intro client hclient u hu
    rcases List.mem_append.mp hclient with hclient | hclient
    · exact h client hclient u hu
    · obtain rfl := List.mem_singleton.mp hclient
      cases hu
  | adjust =>
    cases hs
    exact h
  | event e =>
    obtain ⟨system, -, rfl⟩ := Option.map_eq_some_iff.mp hs
    exact h
  | act i a =>
    obtain ⟨k, x, hk, hx, rfl⟩ := act_inv hs
    intro client hclient u hu
    rcases List.mem_or_eq_of_mem_set hclient with hclient | rfl
    · exact h client hclient u hu
    · rw [Journal.opened_append]
      rcases Client.prepared_of_act hx hu with hold | hnew
      · exact List.mem_append_left _ (h k (List.mem_of_getElem? hk) u hold)
      · exact List.mem_append_right _ hnew

/-- The units of command `c` are on statements that were opened for client `i`. -/
def Owns (s : Service) (i c : Nat) : Prop :=
  ∃ k client, s.proxy.system.command? c = some k ∧ s.clients[i]? = some client ∧
    ∀ u ∈ k.units, .statement u.statement ∈ client.calls.opened

theorem Owns.step {i c : Nat} (h : s.Owns i c) (hs : s.step m = some s') : s'.Owns i c := by
  obtain ⟨k, client, hk, hclient, howned⟩ := h
  obtain ⟨k', hk', hunits⟩ := command_of_move (P := fun k' => k'.units = k.units)
    (fun hP hstep => (congrArg Prod.fst hstep.request).trans hP) (fun hP _ => hP) hs hk rfl
  obtain ⟨client', hclient', hopened⟩ := client_of_move hs hclient
  exact ⟨k', client', hk', hclient', fun u hu => hopened (howned u (hunits ▸ hu))⟩

theorem owns_submit {i : Nat} (h : s.Provided) (hs : s.step (.act i .submit) = some s') :
    s'.Owns i s.proxy.system.commands.length := by
  obtain ⟨k, x, hk, hx, rfl⟩ := act_inv hs
  obtain ⟨statement, ready, hstage, rfl⟩ := Client.act_submit hx
  refine ⟨_, _, List.getElem?_concat_length, getElem?_acted hk _, fun u hu => ?_⟩
  have hu : u ∈ ready := Command.units_fresh ready _ _ ▸ hu
  rw [Journal.opened_append]
  exact List.mem_append_left _ (h k (List.mem_of_getElem? hk) u (by rw [hstage]; exact hu))

/-! ## A client that waits -/

/-- Command `c` is over, or client `i` waits for it. -/
def Awaits (s : Service) (i c : Nat) : Prop :=
  ∃ k, s.proxy.system.command? c = some k ∧ (k.state.isOver = true ∨
    ∃ client statement, s.clients[i]? = some client ∧
      client.stage = .executed (.running c statement))

theorem returned_of_returned? {p : Proxy} {c : Nat} {answer : Except Fault (List ShardResponse)}
    (h : p.returned? c = some answer) :
    ∃ k, p.system.command? c = some k ∧ k.state = .returned answer :=
  System.returned_of_answer? h

/-- A client waits for its command as long as this is not over. -/
theorem Awaits.step {i c : Nat} (h : s.Awaits i c) (hs : s.step m = some s') : s'.Awaits i c := by
  obtain ⟨k, hk, hover | ⟨client, statement, hclient, hstage⟩⟩ := h
  · obtain ⟨k', hk', hover'⟩ := over_of_move hs hk hover
    exact ⟨k', hk', .inl hover'⟩
  · obtain ⟨k', hk', -⟩ := command_of_move (P := fun _ => True) (fun _ _ => trivial)
      (fun _ _ => trivial) hs hk trivial
    rcases client_of_step hs hclient with hsame | ⟨a, x, rfl, hx, rfl⟩
    · exact ⟨k', hk', .inr ⟨client, statement, hsame, hstage⟩⟩
    · rcases Client.act_of_running hx hstage with ⟨answer, hanswer, rfl⟩ | rfl
      · obtain ⟨k₀, hk₀, hstate⟩ := returned_of_returned? hanswer
        obtain ⟨k₁, hk₁, hover⟩ := over_of_move hs hk₀ (by rw [hstate]; rfl)
        exact ⟨k₁, hk₁, .inl hover⟩
      · obtain ⟨k₁, hk₁, hover⟩ := System.over_of_abandon hk
        exact ⟨k₁, hk₁, .inl hover⟩

theorem awaits_submit {i : Nat} (h : s.step (.act i .submit) = some s') :
    s'.Awaits i s.proxy.system.commands.length := by
  obtain ⟨k, x, hk, hx, rfl⟩ := act_inv h
  obtain ⟨statement, ready, -, rfl⟩ := Client.act_submit hx
  exact ⟨_, List.getElem?_concat_length, .inr ⟨_, statement, getElem?_acted hk _, rfl⟩⟩

/-! ## Who closes what -/

/-- Nothing was opened for two clients. -/
theorem Sound.eq_of_mem_opened (h : s.Sound) {i j : Nat} {k k' : Client}
    (hi : s.clients[i]? = some k) (hj : s.clients[j]? = some k') {x : Resource}
    (hx : x ∈ k.calls.opened) (hx' : x ∈ k'.calls.opened) : i = j := by
  apply Decidable.byContradiction
  intro hne
  -- without client `i` the count is one less, and client `j` still counts
  have hset := sum_map_set (fun k : Client => (Journal.opened k.calls).count x) hi (.ofPortal k.portal)
  have hzero : (Journal.opened (Client.ofPortal k.portal).calls).count x = 0 := rfl
  have hmem : k' ∈ s.clients.set i (.ofPortal k.portal) :=
    List.mem_of_getElem? ((List.getElem?_set_ne hne).trans hj)
  have hle := List.single_le_sum (fun _ _ => Nat.zero_le _) _
    (List.mem_map_of_mem (f := fun k : Client => (Journal.opened k.calls).count x) hmem)
  have hone := h.opened_le_one x
  rw [Journal.opened, h.count_shared Call.opened?_of_isExecution] at hone
  have hcount := List.count_pos_iff.mpr hx
  have hcount' := List.count_pos_iff.mpr hx'
  simp only [Journal.opened] at hset hzero hle hcount hcount'
  omega

/-- Only an act closes anything, and only what was opened for its client. -/
theorem Sound.act_of_closed (h : s.Sound) (hs : s.step m = some s') {x : Resource}
    (hx : x ∈ Journal.closed (s'.journal.drop s.journal.length)) :
    ∃ j a, m = .act j a ∧ ∃ k, s'.clients[j]? = some k ∧ x ∈ k.calls.opened := by
  have nothing : ∀ {calls : List Call}, s'.journal = s.journal ++ calls →
      (∀ call ∈ calls, call.isExecution = true) → False := by
    intro calls hj hcalls
    rw [hj, List.drop_left] at hx
    obtain ⟨call, hcall, hclosed⟩ := List.mem_filterMap.mp hx
    rw [Call.closed?_of_isExecution (hcalls call hcall)] at hclosed
    cases hclosed
  cases m with
  | enter | adjust =>
    cases hs
    exact (nothing (List.append_nil _).symm (List.forall_mem_nil _)).elim
  | event e =>
    obtain ⟨system, he, rfl⟩ := Option.map_eq_some_iff.mp hs
    obtain ⟨calls, hj, hcalls⟩ := System.journal_of_step he
    exact (nothing hj hcalls).elim
  | act j a =>
    have hsound := h.step hs
    obtain ⟨k, y, hk, hy, rfl⟩ := act_inv hs
    have hnew := getElem?_acted hk y
    refine ⟨j, a, rfl, _, hnew, ?_⟩
    have hle := hsound.closed_le_opened_client (List.mem_of_getElem? hnew) x
    rw [Journal.closed_append, List.count_append] at hle
    have hpos : 0 < (Journal.closed (y.2.2.system.journal.drop s.journal.length)).count x :=
      List.count_pos_iff.mpr hx
    exact List.count_pos_iff.mp (by omega)

/-- The statements that a command runs on were opened for the client that submitted it. -/
theorem opened_of_submit {p : Proxy} {before after : List Move} {i : Nat} {s₁ s₂ : Service}
    (hbefore : (ofProxy p).run? before = some s₁)
    (hafter : s₁.run? (.act i .submit :: after) = some s₂)
    {k : Command} (hk : s₂.proxy.system.command? s₁.proxy.system.commands.length = some k)
    {client : Client} (hclient : s₂.clients[i]? = some client) :
    ∀ t ∈ k.tasks, .statement t.unit.statement ∈ client.calls.opened := by
  have hnone : (ofProxy p).Provided := List.forall_mem_nil _
  have hprovided := keeps_run Provided.step hnone hbefore
  obtain ⟨s₁', hsubmit, hrest⟩ := Option.bind_eq_some_iff.mp hafter
  obtain ⟨k', client', hk', hclient', howned⟩ :=
    keeps_run Owns.step (owns_submit hprovided hsubmit) hrest
  obtain rfl : k = k' := Option.some.inj (hk.symm.trans hk')
  obtain rfl : client = client' := Option.some.inj (hclient.symm.trans hclient')
  exact fun t ht => howned _ (List.mem_map_of_mem ht)

/-- What was opened for a client that handed a command to the executor is not closed before the tasks
of the command are settled, unless the command was given up. -/
theorem settled_of_closed {p : Proxy} {size : Nat} (start : p.system = .ofPool size)
    {before after : List Move} {i : Nat} {s₁ s₂ s₃ : Service}
    (hbefore : (ofProxy p).run? before = some s₁)
    (hafter : s₁.run? (.act i .submit :: after) = some s₂) (hm : s₂.step m = some s₃)
    {k : Command} (hk : s₂.proxy.system.command? s₁.proxy.system.commands.length = some k)
    (hkept : k.state ≠ .abandoned) {client : Client} (hclient : s₂.clients[i]? = some client)
    {x : Resource} (hopened : x ∈ client.calls.opened)
    (hclosed : x ∈ Journal.closed (s₃.journal.drop s₂.journal.length)) : k.Settled := by
  have hrun : (ofProxy p).run? (before ++ .act i .submit :: after) = some s₂ := by
    rw [run?_append, hbefore]
    exact hafter
  have hnew : p.system.journal = [] := by rw [start]; rfl
  have hsound : s₂.Sound := (Sound.of_journal_eq_nil hnew).run hrun
  have hreturned : ∀ {answer}, k.state = .returned answer → k.Settled := fun hstate =>
    (sound_of_moves start hrun hk).settled _ hstate
  obtain ⟨s₁', hsubmit, hrest⟩ := Option.bind_eq_some_iff.mp hafter
  obtain ⟨k', hk', hawaits⟩ := keeps_run Awaits.step (awaits_submit hsubmit) hrest
  obtain rfl : k = k' := Option.some.inj (hk.symm.trans hk')
  rcases hawaits with hover | ⟨client', statement, hclient', hstage⟩
  · cases hstate : k.state with
    | returned answer => exact hreturned hstate
    | abandoned => exact absurd hstate hkept
    | gathering | stopping =>
      rw [hstate] at hover
      cases hover
  · obtain rfl : client = client' := Option.some.inj (hclient.symm.trans hclient')
    obtain ⟨j, a, rfl, kj, hkj, hxj⟩ := hsound.act_of_closed hm hclosed
    obtain ⟨k₀, y, hk₀, hy, rfl⟩ := act_inv hm
    -- the client that closes is the one that waits
    have hj : j = i := by
      apply Decidable.byContradiction
      intro hne
      have hsame : (s₂.acted j k₀ y).clients[i]? = some client := by
        rw [getElem?_acted_of_ne hne]
        exact hclient
      exact hne ((hsound.step hm).eq_of_mem_opened hkj hsame hxj hopened)
    subst hj
    obtain rfl : client = k₀ := Option.some.inj (hclient.symm.trans hk₀)
    rcases Client.act_of_running hy hstage with ⟨answer, hanswer, -⟩ | rfl
    · obtain ⟨k₁, hk₁, hstate⟩ := returned_of_returned? hanswer
      obtain rfl : k = k₁ := Option.some.inj (hk.symm.trans hk₁)
      exact hreturned hstate
    · -- to give up a command closes nothing
      have hjournal : (s₂.proxy.system.apply (.abandon s₁.proxy.system.commands.length)).journal =
          s₂.journal :=
        congrArg Opened.journal (Client.opened_abandon s₂.proxy client.portal _)
      have hnone : (s₂.acted j client (.idle, client.portal, { s₂.proxy with
          system := s₂.proxy.system.apply (.abandon s₁.proxy.system.commands.length) })).journal =
            s₂.journal := hjournal
      rw [hnone, List.drop_length] at hclosed
      cases hclosed

/-- What a command comes to, in any schedule of an executor and of a service. When it returns, it
returns the response of every unit or a fault, and the client that takes a fault is answered with a
failure of the infrastructure; what it returns under a deadline it returns without one too, unless it is
the deadline; and nothing of it is left at the executor. The statements that a client's command runs on
were opened for the client, and of what was opened for the client nothing is closed before the tasks of
the command are settled, unless the command was given up. -/
theorem returned_of_run :
    (∀ {size : Nat} {before after : List Event} {units : List PreparedUnit} {parameters : List Value}
        {limit : Option Duration} {s : System} {answer : Except Fault (List ShardResponse)},
      (System.ofPool size).run? (before ++ .submit units parameters limit :: after) = some s →
      s.answer? (before.filterMap (·.request?)).length = some answer →
        (answer = .ok (units.map (·.response)) ∨ ∃ fault, answer = .error fault) ∧
        ((∃ d, limit = some d ∧ answer = .error (.deadline d)) ∨
          ∃ s', (System.ofPool size).run? (before ++ .submit units parameters none :: after) = some s' ∧
            s'.answer? (before.filterMap (·.request?)).length = some answer) ∧
        (∀ i task, s.task? ((before.filterMap (·.request?)).length, i) = some task →
          task.state.isLive = false ∧ task.state.holdsPermit = false) ∧
        (∀ i, ((before.filterMap (·.request?)).length, i) ∉ s.pool.queue) ∧
        ∀ q : Prepared → Bool,
          let calls := (System.ofPool size).callsOf (before.filterMap (·.request?)).length
            (before ++ .submit units parameters limit :: after)
          calls.countP (Call.starts q) = calls.countP (Call.finishes q) + calls.countP (Call.drops q)) ∧
    (∀ {k : Client} {p : Proxy} {x : Stage × Portal × Proxy}, k.act p .finish = some x →
      ∃ command statement answer, k.stage = .executed (.running command statement) ∧
        p.returned? command = some answer ∧
        ((∃ responses packets, answer = .ok responses ∧ x.1 = .executed (.answered packets)) ∨
          ∃ fault, answer = .error fault ∧ x.1 = .executed (.failed (.infrastructure fault)))) ∧
    ∀ {p : Proxy} {size : Nat} {before after : List Move} {i : Nat} {s₁ s₂ s₃ : Service} {m : Move},
      p.system = .ofPool size → (ofProxy p).run? before = some s₁ →
      s₁.run? (.act i .submit :: after) = some s₂ → s₂.step m = some s₃ →
      ∀ k client, s₂.proxy.system.command? s₁.proxy.system.commands.length = some k →
        s₂.clients[i]? = some client →
        (∀ t ∈ k.tasks, .statement t.unit.statement ∈ client.calls.opened) ∧
        (k.state ≠ .abandoned → ∀ x ∈ client.calls.opened,
          x ∈ Journal.closed (s₃.journal.drop s₂.journal.length) →
            ∀ t ∈ k.tasks, t.state.isLive = false ∧ t.state.holdsPermit = false) := by
  refine ⟨?_, Client.act_finish, ?_⟩
  · intro size before after units parameters limit s answer h ha
    have hasked : ((before ++ .submit units parameters limit :: after).filterMap (·.request?))[
        (before.filterMap (·.request?)).length]? = some (units, parameters, limit) := by
      rw [List.filterMap_append, List.getElem?_append_right (Nat.le_refl _), Nat.sub_self]
      rfl
    obtain ⟨htasks, hqueue⟩ := System.settled_of_answer? h ha
    refine ⟨System.answer_eq_or_fault h hasked ha, ?_, htasks, hqueue, System.balance_of_answer? h ha⟩
    rw [System.run?_append] at h ⊢
    obtain ⟨s₁, hbefore, hafter⟩ := Option.bind_eq_some_iff.mp h
    have hlength : (before.filterMap (·.request?)).length = s₁.commands.length := by
      have hrequests : s₁.commands.map (·.request) = before.filterMap (·.request?) :=
        System.requests_run hbefore
      rw [← hrequests, List.length_map]
    rw [hlength] at ha ⊢
    rw [hbefore]
    exact System.answer_unlimited hafter ha
  · intro p size before after i s₁ s₂ s₃ m start hbefore hafter hm k client hk hclient
    refine ⟨opened_of_submit hbefore hafter hk hclient, fun hkept x hopened hclosed t ht => ?_⟩
    exact TaskState.not_of_isSettled
      (settled_of_closed start hbefore hafter hm hk hkept hclient hopened hclosed t ht)

/-- A backend that crashes while another is still executing; and the end of a client's command, behind
which the client's statement is closed. -/
theorem returned_of_run_crashed :
    let crashing : PreparedUnit :=
      ⟨"ds", ⟨⟨1, "ds", { Script.yielding (.update 1 0) with ending := .crashes }⟩, 1⟩⟩
    let events : List Event :=
      [.enqueue (0, 0), .enqueue (0, 1), .grant (0, 0), .grant (0, 1), .crash (0, 1), .join (0, 1),
        .abort (0, 0), .answer 0]
    let source : Source := ⟨0, "a", .yielding (.update 1 0)⟩
    let route : Route := ⟨.ofType .dml, [⟨"a", "SQL"⟩]⟩
    let p : Proxy := { Proxy.ofRouting .default (.sharding fun _ _ => .ok route) 1 with
      sources := ⟨[source]⟩, statements := (Registry.empty.register "SQL").2 }
    let before : List Move := [.enter 1 [], .act 0 .execute, .act 0 .connect, .act 0 .prepare]
    let after : List Move :=
      [.event (.enqueue (0, 0)), .event (.grant (0, 0)), .event (.finish (0, 0)), .event (.join (0, 0)),
        .event (.collect 0), .act 0 .finish]
    (∃ s, (System.ofPool 2).run?
          (.submit [System.delayedUnit 0 5 (.update 1 0), crashing] [] none :: events) = some s ∧
        s.answer? 0 = some (.error .panicked) ∧
        ∀ i task, s.task? (0, i) = some task →
          task.state.isLive = false ∧ task.state.holdsPermit = false) ∧
    ∃ s₁ s₂ s₃ k, (ofProxy p).run? before = some s₁ ∧ s₁.run? (.act 0 .submit :: after) = some s₂ ∧
      s₂.step (.act 0 .hasMore) = some s₃ ∧
      .statement ⟨source, 1⟩ ∈ Journal.closed (s₃.journal.drop s₂.journal.length) ∧
      s₂.proxy.system.command? 0 = some k ∧
      ∀ t ∈ k.tasks, t.state.isLive = false ∧ t.state.holdsPermit = false := by
  intro crashing events source route p before after
  obtain ⟨hexecutor, -, hservice⟩ := returned_of_run
  refine ⟨?_, ?_⟩
  · obtain ⟨s, hs⟩ : ∃ s, (System.ofPool 2).run?
        ([] ++ .submit [System.delayedUnit 0 5 (.update 1 0), crashing] [] none :: events) = some s :=
      ⟨_, rfl⟩
    have ha : s.answer? 0 = some (.error .panicked) := by
      cases hs
      rfl
    exact ⟨s, hs, ha, (hexecutor hs ha).2.2.1⟩
  · have hrun : (((ofProxy p).run? before).bind fun s₁ =>
        (s₁.run? (.act 0 .submit :: after)).bind fun s₂ =>
        (s₂.step (.act 0 .hasMore)).bind fun s₃ => (s₂.proxy.system.command? 0).bind fun k =>
          s₂.clients[0]?.map fun client => (s₁, s₂, s₃, k, client)).any (fun r =>
        r.1.proxy.system.commands.length = 0 ∧ r.2.2.2.1.state.callsOff = false ∧
          Resource.statement ⟨source, 1⟩ ∈ r.2.2.2.2.calls.opened ∧
          Resource.statement ⟨source, 1⟩ ∈ Journal.closed (r.2.2.1.journal.drop r.2.1.journal.length)) =
        true := by
      decide +kernel
    obtain ⟨⟨s₁, s₂, s₃, k, client⟩, hr, hfacts⟩ := (Option.any_eq_true _ _).mp hrun
    obtain ⟨hnone, hkept, hopened, hclosed⟩ := of_decide_eq_true hfacts
    obtain ⟨s₁', h₁, hr⟩ := Option.bind_eq_some_iff.mp hr
    obtain ⟨s₂', h₂, hr⟩ := Option.bind_eq_some_iff.mp hr
    obtain ⟨s₃', h₃, hr⟩ := Option.bind_eq_some_iff.mp hr
    obtain ⟨k', hk, hr⟩ := Option.bind_eq_some_iff.mp hr
    obtain ⟨client', hclient, hr⟩ := Option.map_eq_some_iff.mp hr
    cases hr
    refine ⟨s₁, s₂, s₃, k, h₁, h₂, h₃, hclosed, hk, ?_⟩
    have hcommand : s₁.proxy.system.commands.length = 0 := hnone
    refine (hservice rfl h₁ h₂ h₃ k client (by rw [hcommand]; exact hk) hclient).2 ?_ _ hopened hclosed
    intro hstate
    have hoff : k.state.callsOff = false := hkept
    rw [hstate] at hoff
    cases hoff

end Service

end ShardProxy
