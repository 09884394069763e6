import ShardProxy.Proofs.Service.Closing

/-!
# What is executed was handed over

Commands come to the executor from clients, each with the units that its client has prepared. A
statement is executed only as part of such a command, and a statement that is opened for a client and
no longer ready when the client hands over a command is never executed.

    started st   →   st was handed over   →   st was opened
-/

namespace ShardProxy

/-- No execution is part of a ledger. -/
theorem Ledger.isExecution {r r' : Resources} {calls : List Call} (h : Ledger r calls r') :
    ∀ call ∈ calls, call.isExecution = false := by
  induction h with
  | rest => exact List.forall_mem_nil _
  | refused _ _ ih | rejected _ _ _ _ ih | connected _ _ ih | prepared _ _ _ _ ih =>
    exact List.forall_mem_cons.mpr ⟨rfl, ih⟩
  | @released r _ calls _ ih =>
    intro call hcall
    rcases List.mem_append.mp hcall with hcall | hcall
    · rcases List.mem_append.mp hcall with hcall | hcall
      · obtain ⟨st, -, rfl⟩ := List.mem_map.mp hcall
        rfl
      · obtain ⟨c, -, rfl⟩ := List.mem_map.mp hcall
        rfl
    · exact ih call hcall

/-- A command starts executions of its units only. -/
theorem Command.Notes.unit_of_started {k k' : Command} {calls : Journal} (h : k.Notes k' calls)
    {st : Prepared} {parameters : List Value} (hst : .started st parameters ∈ calls) :
    ∃ u ∈ k.units, u.statement = st := by
  cases h with
  | rest => cases hst
  | @task i t state calls hi _ hnoted =>
    refine ⟨t.unit, List.mem_map_of_mem (List.mem_of_getElem? hi), ?_⟩
    generalize hb : t.state.holdsPermit = b at hnoted
    generalize hb' : state.holdsPermit = b' at hnoted
    cases hnoted with
    | silent => cases hst
    | started => cases List.mem_singleton.mp hst; rfl
    | finished | dropped => cases List.mem_singleton.mp hst

/-- A command that comes to the executor from elsewhere than a client. -/
def Move.isForeign : Move → Bool
  | .event (.submit ..) => true
  | _ => false

namespace Service

variable {s s' : Service} {m : Move}

/-! ## Commands -/

/-- The units of the commands at the executor, command by command. -/
def handed (s : Service) : List (List PreparedUnit) := s.proxy.system.commands.map (·.units)

/-- A command at the executor has a unit on the statement. -/
def HandedOver (s : Service) (st : Prepared) : Prop := ∃ units ∈ s.handed, ∃ u ∈ units, u.statement = st

/-- An event adds the units of the command that it submits. -/
theorem units_of_event {system system' : System} {e : Event} (h : system.step e = some system') :
    system'.commands.map (·.units) = system.commands.map (·.units) ++ (e.request?.map (·.1)).toList := by
  have hrequests := congrArg (List.map (·.1)) (System.requests_step h)
  rw [List.map_append, List.map_map, List.map_map] at hrequests
  refine hrequests.trans (congrArg _ ?_)
  cases e.request? <;> rfl

theorem units_of_abandon (system : System) (command : Nat) :
    (system.apply (.abandon command)).commands.map (·.units) = system.commands.map (·.units) := by
  unfold System.apply
  cases h : system.step (.abandon command) with
  | none => rfl
  | some system' => exact (units_of_event h).trans (List.append_nil _)

/-- No other act than a submission adds a command. -/
theorem units_of_act {k : Client} {p : Proxy} {a : Act} {x : Stage × Portal × Proxy}
    (h : k.act p a = some x) (ha : a ≠ .submit) :
    x.2.2.system.commands.map (·.units) = p.system.commands.map (·.units) := by
  cases Client.step_of_act h with
  | submit hstage =>
    cases a with
    | submit => exact absurd rfl ha
    | giveUp =>
      simp only [Client.act, hstage, Client.settled, Option.some.injEq, Prod.mk.injEq] at h
      cases h.1
    | execute | connect | prepare | finish | hasMore | nextPacket | drop =>
      simp [Client.act, hstage, Stage.isFree] at h
  | abandon => exact units_of_abandon _ _
  | execute => rw [Client.commands_execute]
  | connect => rw [Client.commands_connect]
  | prepare => rw [Client.commands_prepare]
  | finish =>
    unfold Client.settled
    rw [Client.commands_finish]
  | giveUp | nextPacket | hasMore | drop => rfl

/-- A submission hands over what its client has ready. -/
theorem handed_of_submit {i : Nat} (h : s.step (.act i .submit) = some s') :
    ∃ k statement ready, s.clients[i]? = some k ∧ k.stage = .preparing statement ready [] ∧
      s'.handed = s.handed ++ [ready] := by
  obtain ⟨k, x, hk, hx, rfl⟩ := act_inv h
  obtain ⟨statement, ready, hstage, rfl⟩ := Client.act_submit hx
  refine ⟨k, statement, ready, hk, hstage, ?_⟩
  exact units_of_event (e := .submit ready k.portal.values s.proxy.config.executor.queryTimeout) rfl

/-- Commands come from the clients: the units of a new one are those that its client had ready. -/
theorem handed_of_move (h : s.step m = some s') (hown : m.isForeign = false) :
    s'.handed = s.handed ∨ ∃ i k statement ready, m = .act i .submit ∧ s.clients[i]? = some k ∧
      k.stage = .preparing statement ready [] ∧ s'.handed = s.handed ++ [ready] := by
  cases m with
  | enter | adjust =>
    cases h
    exact .inl rfl
  | event e =>
    obtain ⟨system, he, rfl⟩ := Option.map_eq_some_iff.mp h
    have hnone : e.request? = none := by
      cases e <;> first | rfl | cases hown
    refine .inl ((units_of_event he).trans ?_)
    rw [hnone]
    exact List.append_nil _
  | act i a =>
    by_cases ha : a = .submit
    · subst ha
      obtain ⟨k, statement, ready, hk, hstage, hmore⟩ := handed_of_submit h
      exact .inr ⟨i, k, statement, ready, rfl, hk, hstage, hmore⟩
    · obtain ⟨k, x, -, hx, rfl⟩ := act_inv h
      exact .inl (units_of_act hx ha)

theorem HandedOver.of_subset {st : Prepared} (h : s.HandedOver st) (hsub : s.handed ⊆ s'.handed) :
    s'.HandedOver st := by
  obtain ⟨units, hunits, hu⟩ := h
  exact ⟨units, hsub hunits, hu⟩

theorem handed_subset_of_move (h : s.step m = some s') (hown : m.isForeign = false) :
    s.handed ⊆ s'.handed := by
  rcases handed_of_move h hown with hsame | ⟨-, -, -, ready, -, -, -, hmore⟩
  · rw [hsame]
    exact List.Subset.refl _
  · rw [hmore]
    exact List.subset_append_left _ _

/-! ## Executions -/

/-- What moves keep of what was opened, handed over and executed. -/
structure Steady (s : Service) : Prop where
  sound : s.Sound
  provided : s.Provided
  opened : ∀ st, s.HandedOver st → .statement st ∈ s.journal.opened
  started : ∀ st parameters, .started st parameters ∈ s.journal → s.HandedOver st

/-- What a move adds to the journal: the calls of an act, or those of a command that goes on. -/
theorem journal_of_move (h : s.step m = some s') :
    ∃ calls, s'.journal = s.journal ++ calls ∧
      ((∀ call ∈ calls, call.isExecution = false) ∨
        ∃ c k k', s.proxy.system.command? c = some k ∧ k.Notes k' calls) := by
  cases m with
  | enter | adjust =>
    cases h
    exact ⟨[], (List.append_nil _).symm, .inl (List.forall_mem_nil _)⟩
  | event e =>
    obtain ⟨system, he, rfl⟩ := Option.map_eq_some_iff.mp h
    cases hc : e.command? with
    | none =>
      refine ⟨[], ?_, .inl (List.forall_mem_nil _)⟩
      rw [List.append_nil]
      exact System.journal_of_none he hc
    | some c =>
      obtain ⟨k, k', calls, hk, -, hj, hnotes⟩ := System.notes_step he hc
      exact ⟨calls, hj, .inr ⟨c, k, k', hk, hnotes⟩⟩
  | act i a =>
    obtain ⟨k, x, -, hx, rfl⟩ := act_inv h
    obtain ⟨calls, hleads⟩ := Client.act_leads hx
    exact ⟨calls, hleads.journal, .inl hleads.ledger.isExecution⟩

namespace Steady

theorem ofProxy {p : Proxy} {size : Nat} (start : p.system = .ofPool size) : (ofProxy p).Steady := by
  have hjournal : (Service.ofProxy p).journal = [] := by
    show p.system.journal = []
    rw [start]
    rfl
  have hhanded : (Service.ofProxy p).handed = [] := by
    show p.system.commands.map (·.units) = []
    rw [start]
    rfl
  refine ⟨.of_journal_eq_nil hjournal, List.forall_mem_nil _, ?_, ?_⟩
  · rintro st ⟨units, hunits, -⟩
    rw [hhanded] at hunits
    cases hunits
  · intro st parameters hst
    rw [hjournal] at hst
    cases hst

theorem step (h : s.Steady) (hs : s.step m = some s') (hown : m.isForeign = false) : s'.Steady := by
  obtain ⟨calls, hjournal, hcalls⟩ := journal_of_move hs
  have hsub := handed_subset_of_move hs hown
  have hopened : s.journal.opened ⊆ s'.journal.opened := by
    rw [hjournal, Journal.opened_append]
    exact List.subset_append_left _ _
  refine ⟨h.sound.step hs, h.provided.step hs, fun st hst => ?_, fun st parameters hst => ?_⟩
  · rcases handed_of_move hs hown with hsame | ⟨i, k, statement, ready, -, hk, hstage, hmore⟩
    · exact hopened (h.opened st (hst.of_subset (by rw [hsame]; exact List.Subset.refl _)))
    · obtain ⟨units, hunits, u, hu, rfl⟩ := hst
      rw [hmore] at hunits
      rcases List.mem_append.mp hunits with hunits | hunits
      · exact hopened (h.opened _ ⟨units, hunits, u, hu, rfl⟩)
      · obtain rfl := List.mem_singleton.mp hunits
        have hmem := List.mem_of_getElem? hk
        exact hopened (h.sound.mem_journal_opened hmem (h.provided k hmem u (by rw [hstage]; exact hu)))
  · rw [hjournal] at hst
    rcases List.mem_append.mp hst with hst | hst
    · exact (h.started st parameters hst).of_subset hsub
    · rcases hcalls with hnone | ⟨c, k, k', hk, hnotes⟩
      · cases hnone _ hst
      · have hhanded : k.units ∈ s.handed := List.mem_map_of_mem (List.mem_of_getElem? hk)
        exact HandedOver.of_subset ⟨k.units, hhanded, hnotes.unit_of_started hst⟩ hsub

theorem run {moves : List Move} (h : s.Steady) (hown : ∀ m ∈ moves, m.isForeign = false)
    (hrun : s.run? moves = some s') : s'.Steady :=
  keeps_run_of_visits (fun _ hm hsteady hs => hsteady.step hs (hown _ hm)) h hrun

end Steady

/-! ## Statements that are left behind -/

/-- A statement that was opened for client `i` and is part of no command, nor ready to become one. -/
structure LeftBehind (s : Service) (i : Nat) (st : Prepared) : Prop where
  opened : ∃ k, s.clients[i]? = some k ∧ .statement st ∈ k.calls.opened ∧
    ∀ u ∈ k.stage.ready, u.statement ≠ st
  kept : ¬ s.HandedOver st

/-- What was opened is not opened again. -/
theorem Sound.not_mem_opened (h : s'.Sound) {j calls : Journal} (hjournal : s'.journal = j ++ calls)
    {x : Resource} (hx : x ∈ j.opened) : x ∉ calls.opened := by
  have hnodup := h.numbered.nodup_opened
  rw [hjournal, Journal.opened_append] at hnodup
  exact fun hx' => (List.nodup_append.mp hnodup).2.2 x hx x hx' rfl

/-- No act makes a statement ready that was opened before and is not ready. -/
theorem ready_of_act (hsteady : s.Steady) {i : Nat} {k : Client} {a : Act}
    {x : Stage × Portal × Proxy} (hk : s.clients[i]? = some k) (hx : k.act s.proxy a = some x)
    {st : Prepared} (hopened : .statement st ∈ k.calls.opened)
    (hready : ∀ u ∈ k.stage.ready, u.statement ≠ st) : ∀ u ∈ x.1.ready, u.statement ≠ st := by
  rintro u hu rfl
  rcases Client.prepared_of_act hx hu with hold | hnew
  · exact hready u hold rfl
  · have hsound := hsteady.sound.acted hk hx
    obtain ⟨calls, hleads⟩ := Client.act_leads hx
    have hjournal : x.2.2.system.journal = s.journal ++ calls := hleads.journal
    have hcalls : x.2.2.system.journal.drop s.proxy.system.journal.length = calls := drop_journal hjournal
    rw [hcalls] at hnew
    exact hsound.not_mem_opened hjournal
      (hsteady.sound.mem_journal_opened (List.mem_of_getElem? hk) hopened) hnew

/-- What is handed over was ready for the client that hands it over. -/
theorem not_handedOver_of_move (hsteady : s.Steady) (hs : s.step m = some s')
    (hown : m.isForeign = false) {i : Nat} {k : Client} {st : Prepared}
    (hk : s.clients[i]? = some k) (hopened : .statement st ∈ k.calls.opened)
    (hready : m = .act i .submit → ∀ u ∈ k.stage.ready, u.statement ≠ st)
    (hkept : ¬ s.HandedOver st) : ¬ s'.HandedOver st := by
  rintro ⟨units, hunits, u, hu, rfl⟩
  rcases handed_of_move hs hown with hsame | ⟨j, k', statement, ready, rfl, hk', hstage, hmore⟩
  · rw [hsame] at hunits
    exact hkept ⟨units, hunits, u, hu, rfl⟩
  · rw [hmore] at hunits
    rcases List.mem_append.mp hunits with hunits | hunits
    · exact hkept ⟨units, hunits, u, hu, rfl⟩
    · obtain rfl := List.mem_singleton.mp hunits
      have hu : u ∈ k'.stage.ready := by rw [hstage]; exact hu
      have hij : i = j := hsteady.sound.eq_of_mem_opened hk hk' hopened
        (hsteady.provided k' (List.mem_of_getElem? hk') u hu)
      subst hij
      obtain rfl : k = k' := Option.some.inj (hk.symm.trans hk')
      exact hready rfl u hu rfl

theorem LeftBehind.step {i : Nat} {st : Prepared} (h : s.LeftBehind i st) (hsteady : s.Steady)
    (hs : s.step m = some s') (hown : m.isForeign = false) : s'.LeftBehind i st := by
  obtain ⟨k, hk, hopened, hready⟩ := h.opened
  refine ⟨?_, not_handedOver_of_move hsteady hs hown hk hopened (fun _ => hready) h.kept⟩
  rcases client_of_step hs hk with hsame | ⟨a, x, rfl, hx, rfl⟩
  · exact ⟨k, hsame, hopened, hready⟩
  · refine ⟨_, getElem?_acted hk x, ?_, ready_of_act hsteady hk hx hopened hready⟩
    rw [Journal.opened_append]
    exact List.mem_append_left _ hopened

/-- A statement that is left behind is never executed. -/
theorem LeftBehind.not_started {i : Nat} {st : Prepared} (h : s.LeftBehind i st) (hsteady : s.Steady)
    {moves : List Move} (hown : ∀ m ∈ moves, m.isForeign = false) (hrun : s.run? moves = some s')
    (parameters : List Value) : .started st parameters ∉ s'.journal := by
  obtain ⟨hsteady', h'⟩ := keeps_run_of_visits (J := fun t => t.Steady ∧ t.LeftBehind i st)
    (fun _ hm ⟨hsteady, h⟩ hs => ⟨hsteady.step hs (hown _ hm), h.step hsteady hs (hown _ hm)⟩)
    ⟨hsteady, h⟩ hrun
  exact fun hst => h'.kept (hsteady'.started st parameters hst)

end Service

end ShardProxy
