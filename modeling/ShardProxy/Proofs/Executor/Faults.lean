import ShardProxy.Proofs.Executor.Lives

/-!
# What a command can fail with

While a command gathers, its tasks are not told to stop. So no task that it joins was cancelled, and the
places that are filled are those of the tasks it has joined, one each: with all tasks joined no place is
empty. What a command fails with is then one of three, and neither of the other two that the loop could
name:

    k.CanFail fault  ↔  the pool was closed,  a unit of `k` crashed,  or the time of `k` was up
-/

namespace ShardProxy

/-- The fault that a command will return or has returned. -/
def CommandState.fault? : CommandState → Option Fault
  | stopping fault | returned (.error fault) => some fault
  | gathering | returned (.ok _) | abandoned => none

/-- The response in the place of a task that went well. -/
def Task.taken? (t : Task) : Option ShardResponse :=
  match t.state with
  | .joined => some t.unit.response
  | _ => none

theorem Task.taken?_of_ne {t : Task} (h : t.state ≠ .joined) : t.taken? = none := by
  unfold taken?
  split
  · next hstate => exact absurd hstate h
  · rfl

/-- How a task can end that nobody told to stop. -/
inductive TaskEnd.Unforced (unit : PreparedUnit) : TaskEnd → Prop
  | answered : Unforced unit (.answered unit.response)
  | refused : Unforced unit (.failed .poolClosed)
  | crashed : unit.script.ending = .crashes → Unforced unit (.failed .panicked)

theorem Task.Step.unforced {closed : Bool} {k : Command} (hcancelled : k.cancelled = false)
    {unit : PreparedUnit} {state state' : TaskState} (h : Task.Step closed k unit state state')
    {how : TaskEnd} (hhow : state' = .ended how) : how.Unforced unit := by
  cases h with
  | enqueue | grant | abort => cases hhow
  | refuse =>
    obtain rfl := TaskState.ended.inj hhow
    exact .refused
  | finish =>
    obtain rfl := TaskState.ended.inj hhow
    exact .answered
  | crash _ hending =>
    obtain rfl := TaskState.ended.inj hhow
    exact .crashed hending
  | cancel hcancel =>
    rw [hcancelled] at hcancel
    cases hcancel

theorem Task.Step.ne_joined {closed : Bool} {k : Command} {unit : PreparedUnit}
    {state state' : TaskState} (h : Task.Step closed k unit state state') : state' ≠ .joined := by
  rintro rfl
  cases h

/-! ## The words of a fault -/

namespace Fault

/-- Texts differ if anything that is read off their characters does. -/
theorem ne_of_toList {α : Type} {a b : String} (f : List Char → α) (h : f a.toList ≠ f b.toList) :
    a ≠ b := by
  rintro rfl
  exact h rfl

theorem head?_cancelled (dataSource : String) :
    (cancelled dataSource).message.toList.head? = some 't' := by
  show ("task on `" ++ dataSource ++ "` was cancelled").toList.head? = some 't'
  simp [String.toList_append]

theorem toList_noResponse (i : Nat) : (noResponse i).message.toList =
    "shard task ".toList ++ (i.repr.toList ++ " produced no response".toList) := by
  show ("shard task " ++ i.repr ++ " produced no response").toList = _
  rw [String.toList_append, String.toList_append, List.append_assoc]

theorem toList_deadline (limit : Duration) : (deadline limit).message.toList =
    "shard tasks".toList ++ (" did not finish within ".toList ++ (inspect limit).toList) := by
  show ("shard tasks did not finish within " ++ inspect limit).toList = _
  rw [String.toList_append, ← List.append_assoc]
  rfl

end Fault

namespace Command

/-- What command `k` can fail with. -/
inductive CanFail (k : Command) : Fault → Prop
  | poolClosed : CanFail k .poolClosed
  | panicked {u : PreparedUnit} : u ∈ k.units → u.script.ending = .crashes → CanFail k .panicked
  | deadline {limit : Duration} : k.deadline.map (·.2) = some limit → CanFail k (.deadline limit)

/-- What a command can fail with depends on what it was asked for. -/
theorem CanFail.congr {k k' : Command} {fault : Fault} (h : k.CanFail fault)
    (hrequest : k'.request = k.request) : k'.CanFail fault := by
  have hunits : k'.units = k.units := congrArg Prod.fst hrequest
  have hlimit : k'.deadline.map (·.2) = k.deadline.map (·.2) := congrArg (·.2.2) hrequest
  cases h with
  | poolClosed => exact .poolClosed
  | panicked hu hending => exact .panicked (hunits ▸ hu) hending
  | deadline h => exact .deadline (hlimit.trans h)

/-- Nothing that a command can fail with begins as the message of a cancelled task does. -/
theorem CanFail.message_ne_cancelled {k : Command} {fault : Fault} (h : k.CanFail fault)
    (dataSource : String) : fault.message ≠ (Fault.cancelled dataSource).message := by
  refine Fault.ne_of_toList List.head? ?_
  rw [Fault.head?_cancelled]
  cases h with
  | poolClosed | panicked => decide
  | deadline =>
    rw [Fault.toList_deadline, List.head?_append_of_ne_nil _ (by decide)]
    decide

/-- The message of a missing response begins or ends in another way. -/
theorem CanFail.message_ne_noResponse {k : Command} {fault : Fault} (h : k.CanFail fault) (i : Nat) :
    fault.message ≠ (Fault.noResponse i).message := by
  cases h with
  | poolClosed =>
    refine Fault.ne_of_toList List.head? ?_
    rw [Fault.toList_noResponse, List.head?_append_of_ne_nil _ (by decide)]
    decide
  | panicked =>
    refine Fault.ne_of_toList List.getLast? ?_
    rw [Fault.toList_noResponse, ← List.append_assoc, List.getLast?_append_of_ne_nil _ (by decide)]
    decide
  | deadline =>
    refine Fault.ne_of_toList (List.take 11) ?_
    rw [Fault.toList_noResponse, Fault.toList_deadline,
      List.take_append_of_le_length (by decide), List.take_append_of_le_length (by decide)]
    decide

/-! ## Places -/

/-- A command that gathers: its tasks were not told to stop, and the places of those it has joined are
filled. -/
structure Gathers (k : Command) : Prop where
  cancelled : k.cancelled = false
  slots : k.slots = k.tasks.map Task.taken?
  ended : ∀ t ∈ k.tasks, ∀ how, t.state = .ended how → how.Unforced t.unit

/-- The places of a command one of whose tasks goes on. -/
theorem taken_withTask {k : Command} {i : Nat} {t : Task} (hi : k.tasks[i]? = some t)
    (state : TaskState) : (k.withTask i state).tasks.map Task.taken? =
      (k.tasks.map Task.taken?).set i (Task.taken? { t with state }) := by
  refine List.ext_getElem? fun j => ?_
  by_cases hj : i = j
  · subst hj
    have hlt := (List.getElem?_eq_some_iff.mp hi).1
    rw [List.getElem?_set_self (by simpa using hlt), List.getElem?_map, withTask,
      List.getElem?_modify_eq, hi]
    rfl
  · rw [List.getElem?_set_ne hj, List.getElem?_map, List.getElem?_map, withTask,
      List.getElem?_modify_ne _ _ hj]

theorem Gathers.withTask {k : Command} (h : k.Gathers) {i : Nat} {t : Task}
    (hi : k.tasks[i]? = some t) {state : TaskState}
    (hended : ∀ how, state = .ended how → how.Unforced t.unit) :
    Gathers { k.withTask i state with slots := k.slots.set i (Task.taken? { t with state }) } where
  cancelled := h.cancelled
  slots := by
    rw [taken_withTask hi, h.slots]
  ended u hu how hhow := by
    obtain ⟨j, hj⟩ := List.getElem?_of_mem hu
    rcases getElem?_withTask hj with ⟨-, t', ht', rfl⟩ | ⟨-, hj⟩
    · obtain rfl := Option.some.inj (hi.symm.trans ht')
      exact hended how hhow
    · exact h.ended u (List.mem_of_getElem? hj) how hhow

/-- The place of a task that is not joined yet is empty. -/
theorem Gathers.getElem?_slots {k : Command} (h : k.Gathers) {i : Nat} {t : Task}
    (hi : k.tasks[i]? = some t) (hne : t.state ≠ .joined) : k.slots[i]? = some none := by
  rw [h.slots, List.getElem?_map, hi, Option.map_some, Task.taken?_of_ne hne]

/-- With every task joined no place is empty. -/
theorem Gathers.collect {k : Command} (h : k.Gathers) (hjoined : ∀ t ∈ k.tasks, t.state = .joined) :
    System.collectSlots 0 k.slots = .ok (k.units.map (·.response)) := by
  have hslots : k.slots = (k.units.map (·.response)).map some := by
    rw [h.slots, units, List.map_map, List.map_map]
    refine List.map_congr_left fun t ht => ?_
    rw [Task.taken?, hjoined t ht]
    rfl
  rw [hslots, collectSlots_map_some]

/-- The place `i` of command `k` is empty, and `k'` has it filled with the response of its unit. -/
def Fills (i : Nat) (k k' : Command) : Prop :=
  k.slots[i]? = some none ∧ ∃ u, k.units[i]? = some u ∧ k'.slots = k.slots.set i (some u.response)

/-- A place that is filled stays so. -/
theorem Step.filled {closed : Bool} {k k' : Command} (hs : k.Step closed k') {i : Nat}
    (h : ∃ r, k.slots[i]? = some (some r)) : ∃ r, k'.slots[i]? = some (some r) := by
  cases hs with
  | @take j t r =>
    obtain ⟨r', hr'⟩ := h
    by_cases hj : j = i
    · subst hj
      exact ⟨r, List.getElem?_set_self (List.getElem?_eq_some_iff.mp hr').1⟩
    · exact ⟨r', (List.getElem?_set_ne hj).trans hr'⟩
  | task | fail | collect | lack | expire | answer => exact h

/-- A command that stops its tasks only when it has failed, and fails only with what it can. -/
structure Proper (k : Command) : Prop where
  gathering : k.state = .gathering → k.Gathers
  fault : ∀ fault, k.state.fault? = some fault → k.cancelled = true ∧ k.CanFail fault
  complete : ∀ responses, k.state = .returned (.ok responses) →
    k.cancelled = false ∧ k.slots = responses.map some

theorem proper_fresh (units : List PreparedUnit) (parameters : List Value)
    (deadline : Option (Nat × Duration)) : (fresh units parameters deadline).Proper where
  gathering _ := by
    refine ⟨rfl, ?_, fun t ht how hhow => ?_⟩
    · rw [fresh, List.map_map]
      rfl
    · obtain ⟨u, -, rfl⟩ := List.mem_map.mp ht
      cases hhow
  fault := nofun
  complete := nofun

/-- What a command can fail with is all that counts once it stops. -/
theorem Proper.stop {k : Command} {fault : Fault} (h : k.CanFail fault) : (k.stop fault).Proper where
  gathering := nofun
  fault fault' hfault := by
    obtain rfl := Option.some.inj hfault
    exact ⟨rfl, h.congr rfl⟩
  complete := nofun

theorem Proper.abandon (k : Command) : Proper { k with state := .abandoned } where
  gathering := nofun
  fault := nofun
  complete := nofun

theorem Gathers.proper {k : Command} (h : k.Gathers) (hstate : k.state = .gathering) : k.Proper where
  gathering _ := h
  fault fault hfault := by
    rw [hstate] at hfault
    cases hfault
  complete responses hr := by
    rw [hstate] at hr
    cases hr

theorem Proper.step {closed : Bool} {k k' : Command} (h : k.Proper) (hs : k.Step closed k') :
    k'.Proper := by
  cases hs with
  | @task i t state hi hstep =>
    refine ⟨fun hstate => ?_, fun fault hfault => ?_, h.complete⟩
    · have hgathers := h.gathering hstate
      have hmoved := hgathers.withTask hi fun how => hstep.unforced hgathers.cancelled
      obtain ⟨hlt, hempty⟩ := List.getElem?_eq_some_iff.mp
        (hgathers.getElem?_slots hi fun hjoined => by
          have hsettled := hstep.isSettled_eq_false
          rw [hjoined] at hsettled
          cases hsettled)
      rw [Task.taken?_of_ne hstep.ne_joined, ← hempty, List.set_getElem_self] at hmoved
      exact hmoved
    · obtain ⟨hcancelled, hfails⟩ := h.fault fault hfault
      exact ⟨hcancelled, hfails.congr (k.request_withTask i state)⟩
  | @take i t r hgathering hi hstate =>
    have hgathers := h.gathering hgathering
    cases hgathers.ended t (List.mem_of_getElem? hi) _ hstate with
    | answered =>
      have hjoined : Gathers { k.withTask i .joined with slots := k.slots.set i (some t.unit.response) } :=
        hgathers.withTask hi nofun
      exact hjoined.proper hgathering
  | @fail i t fault hgathering hi hstate =>
    have hgathers := h.gathering hgathering
    have hmem := List.mem_of_getElem? hi
    cases hgathers.ended t hmem _ hstate with
    | refused => exact .stop .poolClosed
    | crashed hending =>
      have hfails : k.CanFail .panicked := .panicked (List.mem_map_of_mem hmem) hending
      exact .stop (hfails.congr (k.request_withTask i .joined))
  | collect hgathering _ hslots =>
    refine ⟨nofun, nofun, fun responses hr => ?_⟩
    obtain rfl := Except.ok.inj (CommandState.returned.inj hr)
    exact ⟨(h.gathering hgathering).cancelled, collectSlots_eq_ok hslots⟩
  | lack hgathering hjoined hslots =>
    rw [(h.gathering hgathering).collect hjoined] at hslots
    cases hslots
  | expire _ hdeadline => exact .stop (.deadline (by rw [hdeadline]; rfl))
  | @answer fault hstopping _ =>
    refine ⟨nofun, fun fault' hfault => ?_, nofun⟩
    obtain rfl := Option.some.inj hfault
    obtain ⟨hcancelled, hfails⟩ := h.fault fault (by rw [hstopping]; rfl)
    exact ⟨hcancelled, hfails.congr rfl⟩

end Command

namespace System

variable {size c : Nat} {s s' : System} {e : Event} {events : List Event} {k : Command}

theorem proper_of_run (h : (ofPool size).run? events = some s) (hk : s.command? c = some k) :
    k.Proper :=
  forall_command_of_run Command.proper_fresh (fun hproper hstep => hproper.step hstep)
    (fun _ _ => .abandon _) h (fun _ _ => nofun) c k hk

/-! ## Who fills a place -/

/-- A task that an event brings to `joined` is joined by it. -/
theorem eq_join_of_step {t : Nat × Nat} {task task' : Task} (h : s.step e = some s')
    (ht : s.task? t = some task) (ht' : s'.task? t = some task') (hne : task.state ≠ .joined)
    (hjoined : task'.state = .joined) : e = .join t := by
  by_cases he : e.task? = some t
  · obtain ⟨task₀, state, ht₀, hmove, hmoved⟩ := task_of_step h he
    obtain rfl := Option.some.inj (hmoved.symm.trans ht')
    rw [show state = .joined from hjoined] at hmove
    exact hmove.eq_join
  · rcases task?_of_step h he with hsame | ⟨hnone, -⟩
    · rw [hsame, ht] at ht'
      exact absurd (Option.some.inj ht' ▸ hjoined) hne
    · rw [hnone] at ht
      cases ht

/-- An event leaves the places of a command as they are, or joins a task that has answered and fills
its place. -/
theorem slots_of_step (h : s.step e = some s') (hk : s.command? c = some k) (hproper : k.Proper)
    {k' : Command} (hk' : s'.command? c = some k') :
    k'.slots = k.slots ∨ ∃ i t, e = .join (c, i) ∧ s.task? (c, i) = some t ∧
      t.state = .ended (.answered t.unit.response) ∧ k.Fills i k' := by
  obtain ⟨k₁, hk₁, hstep⟩ := command_of_step h hk
  obtain rfl := Option.some.inj (hk₁.symm.trans hk')
  obtain rfl | hstep | ⟨-, rfl⟩ := hstep
  · exact .inl rfl
  · cases hstep with
    | @take i t r hgathering hi hstate =>
      have hgathers := hproper.gathering hgathering
      have hne : t.state ≠ .joined := by
        rw [hstate]
        nofun
      have ht : s.task? (c, i) = some t := Option.bind_eq_some_iff.mpr ⟨k, hk, hi⟩
      have ht' : s'.task? (c, i) = some { t with state := .joined } := by
        refine Option.bind_eq_some_iff.mpr ⟨_, hk', ?_⟩
        show (k.tasks.modify i _)[i]? = _
        rw [List.getElem?_modify_eq, hi]
        rfl
      have hunit : k.units[i]? = some t.unit := by
        rw [Command.units, List.getElem?_map, hi]
        rfl
      cases hgathers.ended t (List.mem_of_getElem? hi) _ hstate with
      | answered =>
        exact .inr ⟨i, t, eq_join_of_step h ht ht' hne rfl, ht, hstate,
          hgathers.getElem?_slots hi hne, t.unit, hunit, rfl⟩
    | task | fail | collect | lack | expire | answer => exact .inl rfl
  · exact .inl rfl

/-- A task is joined once, and has a place. -/
theorem join_once {i : Nat} {front back : List Event}
    (h : (ofPool size).run? (front ++ .join (c, i) :: back) = some s) (hk : s.command? c = some k) :
    i < k.slots.length ∧ .join (c, i) ∉ front ∧ .join (c, i) ∉ back := by
  have hjoin : .join (c, i) ∈ front ++ .join (c, i) :: back := by simp
  obtain ⟨task, ht⟩ := exists_task_of_mem h hjoin rfl
  have hlives := lives_of_start h ht
  rw [eventsOf_append, eventsOf_cons rfl] at hlives
  obtain ⟨hfront, hback⟩ := hlives.of_join
  rw [mem_eventsOf rfl] at hfront
  obtain ⟨k', hk', hi⟩ := task?_eq_some ht
  obtain rfl := Option.some.inj (hk'.symm.trans hk)
  rw [(sound_of_run h hk).slots]
  refine ⟨(List.getElem?_eq_some_iff.mp hi).1, hfront, fun hmem => ?_⟩
  rw [← mem_eventsOf rfl, hback] at hmem
  cases hmem

/-- The place of a task that has finished and is joined is filled. -/
theorem filled_of_join {i : Nat} (h : (ofPool size).run? events = some s)
    (hk : s.command? c = some k) (hjoin : .join (c, i) ∈ events) (hfinish : .finish (c, i) ∈ events) :
    ∃ r, k.slots[i]? = some (some r) := by
  obtain ⟨front, back, rfl⟩ := List.append_of_mem hjoin
  obtain ⟨last, hlast⟩ := exists_task_of_mem h hjoin rfl
  have hlives := lives_of_start h hlast
  rw [eventsOf_append, eventsOf_cons rfl] at hlives
  -- the finish is in front of the join, since nothing comes behind
  have hbefore : .finish (c, i) ∈ eventsOf (c, i) front := by
    rw [← mem_eventsOf rfl, eventsOf_append, eventsOf_cons rfl, hlives.of_join.2] at hfinish
    simpa using hfinish
  rw [run?_append] at h
  obtain ⟨s₁, hfront, h⟩ := Option.bind_eq_some_iff.mp h
  obtain ⟨s₂, hstep, hback⟩ := Option.bind_eq_some_iff.mp h
  obtain ⟨task, k₁, ht, hk₁, -, hends⟩ := join_inv hstep
  have hlived := lives_of_start hfront ht
  have hhow {how : TaskEnd} (hstate : task.state = .ended how) : how = .answered task.unit.response := by
    rw [hstate] at hlived
    exact hlived.answered_of_finish hbefore
  rcases hends with ⟨r, hstate, rfl⟩ | ⟨fault, hstate, -⟩
  · obtain ⟨k₂, hk₂, hi⟩ := task?_eq_some ht
    obtain rfl := Option.some.inj (hk₂.symm.trans hk₁)
    have hlt : i < k₂.slots.length := by
      rw [(sound_of_run hfront hk₁).slots]
      exact (List.getElem?_eq_some_iff.mp hi).1
    have hnew : ((s₁.setTask (c, i) .joined).modifyCommand c fun k =>
        { k with slots := k.slots.set i (some r) }).command? c =
          some { k₂.withTask i .joined with slots := k₂.slots.set i (some r) } := by
      rw [command?_modifyCommand_self, command?_setTask_self, hk₁]
      rfl
    obtain ⟨k', hk', hfilled⟩ := command_of_run (P := fun k => ∃ r, k.slots[i]? = some (some r))
      (fun hfilled hstep => hstep.filled hfilled) (fun hfilled _ => hfilled) hback hnew
      ⟨r, List.getElem?_set_self hlt⟩
    obtain rfl := Option.some.inj (hk'.symm.trans hk)
    exact hfilled
  · cases hhow hstate

/-- With every task finished and joined each place holds the response of its unit. -/
theorem slots_of_joins (h : (ofPool size).run? events = some s) (hk : s.command? c = some k)
    (hall : ∀ i < k.units.length, .join (c, i) ∈ events ∧ .finish (c, i) ∈ events) :
    k.slots = (k.units.map (·.response)).map some := by
  have hsound := sound_of_run h hk
  refine List.ext_getElem? fun i => ?_
  rcases ht : k.tasks[i]? with _ | t
  · have hi : k.tasks.length ≤ i := List.getElem?_eq_none_iff.mp ht
    rw [List.getElem?_eq_none (hsound.slots ▸ hi),
      List.getElem?_eq_none (by simpa [Command.units] using hi)]
  · have hi : i < k.units.length := by
      simpa [Command.units] using (List.getElem?_eq_some_iff.mp ht).1
    obtain ⟨r, hr⟩ := filled_of_join h hk (hall i hi).1 (hall i hi).2
    rw [hr, hsound.filled i t r ht hr]
    simp [Command.units, ht]

/-- The places of a command are written in bounds, once each, by the joins of its tasks: in whatever
order they are joined, once all of them have finished every place holds the response of its unit. In
every run the fault that a command returns is one of three, so neither that a response is missing nor
that a task was cancelled, because no task is told to stop while the command gathers. -/
theorem gathered_of_run (h : (ofPool size).run? events = some s) (hk : s.command? c = some k) :
    (∀ e s' k', s.step e = some s' → s'.command? c = some k' →
      k'.slots = k.slots ∨ ∃ i, e = .join (c, i) ∧ k.Fills i k') ∧
    (∀ front i back, events = front ++ .join (c, i) :: back →
      i < k.slots.length ∧ .join (c, i) ∉ front ∧ .join (c, i) ∉ back) ∧
    ((∀ i < k.units.length, .join (c, i) ∈ events ∧ .finish (c, i) ∈ events) →
      k.slots = (k.units.map (·.response)).map some ∧
        collectSlots 0 k.slots = .ok (k.units.map (·.response))) ∧
    (∀ fault, k.state.fault? = some fault → k.CanFail fault ∧
      (∀ dataSource, fault.message ≠ (Fault.cancelled dataSource).message) ∧
      ∀ i, fault.message ≠ (Fault.noResponse i).message) ∧
    (k.cancelled = true → k.state ≠ .gathering) ∧
    (∀ i s', s.step (.cancel (c, i)) = some s' → k.state ≠ .gathering) := by
  have hproper := proper_of_run h hk
  have hcancelled : k.cancelled = true → k.state ≠ .gathering := by
    intro hcancelled hgathering
    rw [(hproper.gathering hgathering).cancelled] at hcancelled
    cases hcancelled
  refine ⟨?_, ?_, ?_, ?_, hcancelled, ?_⟩
  · intro e s' k' hstep hk'
    obtain hsame | ⟨i, -, he, -, -, hfills⟩ := slots_of_step hstep hk hproper hk'
    · exact .inl hsame
    · exact .inr ⟨i, he, hfills⟩
  · rintro front i back rfl
    exact join_once h hk
  · intro hall
    have hslots := slots_of_joins h hk hall
    refine ⟨hslots, ?_⟩
    rw [hslots, Command.collectSlots_map_some]
  · intro fault hfault
    have hfails := (hproper.fault fault hfault).2
    exact ⟨hfails, hfails.message_ne_cancelled, hfails.message_ne_noResponse⟩
  · intro i s' hstep
    obtain ⟨_, k', -, hk', -, hk'cancelled, -⟩ := cancel_inv hstep
    obtain rfl := Option.some.inj (hk'.symm.trans hk)
    exact hcancelled hk'cancelled

/-- A command whose tasks are joined in the other order, and one that fails by a crash while its other
task runs: that task sees that it was called off, and the fault is the crash. -/
theorem gathered_of_run_crashed :
    let first := delayedUnit 0 0 (.update 1 0)
    let second := delayedUnit 1 0 (.failure Script.tooManyConnections)
    let crashing : PreparedUnit :=
      ⟨"ds", ⟨⟨2, "ds", { Script.yielding (.update 1 0) with ending := .crashes }⟩, 2⟩⟩
    let events : List Event :=
      [.submit [first, second] [] none, .submit [crashing, delayedUnit 3 9 (.update 2 0)] [] none,
        .enqueue (0, 0), .enqueue (1, 0), .enqueue (0, 1), .enqueue (1, 1), .grant (0, 0),
        .grant (1, 0), .grant (0, 1), .finish (0, 0), .finish (0, 1), .join (0, 1), .join (0, 0),
        .grant (1, 1), .crash (1, 0), .join (1, 0), .cancel (1, 1), .abort (1, 1), .answer 1]
    ∃ s k k', (ofPool 3).run? events = some s ∧ s.command? 0 = some k ∧ s.command? 1 = some k' ∧
      collectSlots 0 k.slots = .ok [first.response, second.response] ∧
      k'.state = .returned (.error .panicked) ∧ k'.CanFail .panicked := by
  intro first second crashing events
  obtain ⟨s, k, k', hs, hk, hk', hunits, hstate⟩ : ∃ s k k', (ofPool 3).run? events = some s ∧
      s.command? 0 = some k ∧ s.command? 1 = some k' ∧ k.units = [first, second] ∧
      k'.state = .returned (.error .panicked) := ⟨_, _, _, rfl, rfl, rfl, rfl, rfl⟩
  obtain ⟨-, -, hgathered, -⟩ := gathered_of_run hs hk
  obtain ⟨-, -, -, hfails, -⟩ := gathered_of_run hs hk'
  rw [hunits] at hgathered
  refine ⟨s, k, k', hs, hk, hk', (hgathered fun i hi => ?_).2, hstate, (hfails _ ?_).1⟩
  · have hi : i < 2 := hi
    rcases i with _ | _ | i
    · simp [events]
    · simp [events]
    · omega
  · rw [hstate]
    rfl

end System

end ShardProxy
