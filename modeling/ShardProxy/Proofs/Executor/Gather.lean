import ShardProxy.Dispatch
import ShardProxy.Proofs.Executor.Progress
import ShardProxy.Proofs.Executor.Response

/-!
# Every schedule gathers the same responses

A command all of whose units complete, and which has no deadline, is answered by what each unit's
backend yielded, in the order of the units: whatever the delays, the size of the pool, the other
commands, and the order of the events are.

    Schedule size events s c units parameters   →   s.answer? c = units.map response, once s is at rest
-/

namespace ShardProxy

/-! ## A command that goes well -/

/-- How far a task of unit `u` has got that goes well, with the place of its response. -/
def TaskState.Well (u : PreparedUnit) (slot : Option (Option ShardResponse)) : TaskState → Prop
  | spawned | waiting | executing _ => True
  | ended how => how = .answered u.response
  | joined => slot = some (some u.response)
  | aborted => False

/-- While the pool is open and its command is not stopped, a task whose unit completes goes well. -/
theorem Task.Step.well {k : Command} (hcancelled : k.cancelled = false)
    (hcalls : k.state.callsOff = false) {u : PreparedUnit} (hu : u.script.ending = .completes)
    {state state' : TaskState} (h : Task.Step false k u state state')
    (slot : Option (Option ShardResponse)) : state'.Well u slot := by
  cases h with
  | enqueue | grant => trivial
  | finish => rfl
  | refuse hclosed => cases hclosed
  | cancel hcancel =>
    rw [hcancelled] at hcancel
    cases hcancel
  | crash _ hcrashes =>
    rw [hu] at hcrashes
    cases hcrashes
  | abort hoff =>
    rw [hcalls] at hoff
    cases hoff

namespace Command

/-- The units of a command. -/
def units (k : Command) : List PreparedUnit := k.tasks.map (·.unit)

/-- A command that nothing stops: it takes the responses of its units, each into its own place, or has
returned them all. -/
structure Well (k : Command) : Prop where
  cancelled : k.cancelled = false
  deadline : k.deadline = none
  slots : k.slots.length = k.tasks.length
  tasks : ∀ (i : Nat) (t : Task), k.tasks[i]? = some t → t.state.Well t.unit k.slots[i]?
  state : k.state = .gathering ∨ k.state = .returned (.ok (k.units.map (·.response)))

theorem collectSlots_map_some (i : Nat) (responses : List ShardResponse) :
    System.collectSlots i (responses.map some) = .ok responses := by
  induction responses generalizing i with
  | nil => rfl
  | cons r responses ih =>
    rw [List.map_cons, System.collectSlots, ih]
    rfl

/-- With every result taken, the responses of all units are in their places. -/
theorem Well.collect {k : Command} (h : k.Well) (hjoined : ∀ t ∈ k.tasks, t.state = .joined) :
    System.collectSlots 0 k.slots = .ok (k.units.map (·.response)) := by
  have hslots : k.slots = (k.units.map (·.response)).map some := by
    refine List.ext_getElem? fun i => ?_
    rcases ht : k.tasks[i]? with _ | t
    · have hi : k.tasks.length ≤ i := List.getElem?_eq_none_iff.mp ht
      rw [List.getElem?_eq_none (h.slots ▸ hi), List.getElem?_eq_none (by simpa [units] using hi)]
    · have hwell := h.tasks i t ht
      rw [hjoined t (List.mem_of_getElem? ht)] at hwell
      rw [show k.slots[i]? = some (some t.unit.response) from hwell]
      simp [units, ht]
  rw [hslots, collectSlots_map_some]

theorem units_withTask (k : Command) (i : Nat) (state : TaskState) :
    (k.withTask i state).units = k.units :=
  congrArg Prod.fst (k.request_withTask i state)

theorem getElem?_withTask {k : Command} {i j : Nat} {state : TaskState} {u : Task}
    (h : (k.withTask i state).tasks[j]? = some u) :
    (j = i ∧ ∃ t, k.tasks[i]? = some t ∧ u = { t with state }) ∨
      (j ≠ i ∧ k.tasks[j]? = some u) := by
  simp only [withTask, List.getElem?_modify] at h
  by_cases hj : i = j
  · subst hj
    rw [Option.map_eq_map, Option.map_eq_some_iff] at h
    obtain ⟨t, ht, rfl⟩ := h
    exact .inl ⟨rfl, t, ht, if_pos rfl⟩
  · simp only [if_neg hj] at h
    exact .inr ⟨Ne.symm hj, by simpa using h⟩

/-- A task goes on well, and its place is filled if its response is taken. -/
theorem Well.withTask {k : Command} (h : k.Well) {i : Nat} {t : Task} (hi : k.tasks[i]? = some t)
    {state : TaskState} {slots : List (Option ShardResponse)} (hlength : slots.length = k.slots.length)
    (hslots : ∀ j, j ≠ i → slots[j]? = k.slots[j]?) (hstate : state.Well t.unit slots[i]?) :
    Well { k.withTask i state with slots } where
  cancelled := h.cancelled
  deadline := h.deadline
  slots := by
    show slots.length = (k.withTask i state).tasks.length
    rw [hlength, h.slots, Command.withTask, List.length_modify]
  tasks j u hj := by
    show u.state.Well u.unit slots[j]?
    rcases getElem?_withTask hj with ⟨rfl, t', ht', rfl⟩ | ⟨hne, hj⟩
    · obtain rfl : t = t' := Option.some.inj (hi.symm.trans ht')
      exact hstate
    · rw [hslots j hne]
      exact h.tasks j u hj
  state := by
    show k.state = .gathering ∨ k.state = .returned (.ok ((k.withTask i state).units.map (·.response)))
    rw [units_withTask]
    exact h.state

/-- Nothing that happens while the pool is open stops a command whose units complete. -/
theorem Well.step {k k' : Command} (h : k.Well)
    (hcompletes : ∀ u ∈ k.units, u.script.ending = .completes) (hs : k.Step false k') : k'.Well := by
  have hcalls : k.state.callsOff = false := by
    rcases h.state with hstate | hstate <;> rw [hstate] <;> rfl
  cases hs with
  | @task i t state hi hstep =>
    have hu := hcompletes t.unit (List.mem_map_of_mem (List.mem_of_getElem? hi))
    exact h.withTask hi rfl (fun _ _ => rfl) (hstep.well h.cancelled hcalls hu _)
  | @take i t r hgathering hi hstate =>
    have hwell := h.tasks i t hi
    rw [hstate] at hwell
    obtain rfl : r = t.unit.response := TaskEnd.answered.inj hwell
    have hlt : i < k.slots.length := h.slots ▸ (List.getElem?_eq_some_iff.mp hi).1
    refine h.withTask hi List.length_set (fun j hj => List.getElem?_set_ne (Ne.symm hj)) ?_
    exact List.getElem?_set_self hlt
  | @fail i t fault hgathering hi hstate =>
    have hwell := h.tasks i t hi
    rw [hstate] at hwell
    cases hwell
  | collect hgathering hjoined hslots =>
    rw [h.collect hjoined] at hslots
    obtain rfl := Except.ok.inj hslots
    exact ⟨h.cancelled, h.deadline, h.slots, h.tasks, .inr rfl⟩
  | lack hgathering hjoined hslots =>
    rw [h.collect hjoined] at hslots
    cases hslots
  | expire hgathering hdeadline =>
    rw [h.deadline] at hdeadline
    cases hdeadline
  | answer hstopping =>
    rcases h.state with hstate | hstate <;> rw [hstate] at hstopping <;> cases hstopping

end Command

namespace System

/-- The answer that a command has returned. -/
def answer? (s : System) (c : Nat) : Option (Except Fault (List ShardResponse)) :=
  (s.command? c).bind fun k =>
    match k.state with
    | .returned answer => some answer
    | _ => none

/-- Command `c` goes well if nothing but its units could stop it. -/
def GoesWell (s : System) (c : Nat) : Prop :=
  ∀ k, s.command? c = some k → k.deadline = none →
    (∀ u ∈ k.units, u.script.ending = .completes) → k.Well

theorem goesWell_submit (s : System) {c : Nat} (h : s.GoesWell c) (units : List PreparedUnit)
    (parameters : List Value) (limit : Option Duration) :
    (s.submit units parameters limit).GoesWell c := by
  intro k hk hdeadline hcompletes
  rcases command?_submit hk with hold | ⟨-, rfl⟩
  · exact h k hold hdeadline hcompletes
  · refine ⟨rfl, hdeadline, by simp [Command.fresh], fun i t ht => ?_, .inl rfl⟩
    simp only [Command.fresh, List.getElem?_map, Option.map_eq_some_iff] at ht
    obtain ⟨u, -, rfl⟩ := ht
    trivial

theorem GoesWell.step {s s' : System} {c : Nat} (h : s.GoesWell c) (hopen : s.pool.closed = false)
    {e : Event} (hs : s.step e = some s') (he : e ≠ .abandon c) : s'.GoesWell c := by
  cases hcommand : e.command? with
  | none =>
    rcases commands_of_none hs hcommand with ⟨units, parameters, limit, -, rfl⟩ | ⟨hc, -⟩
    · exact s.goesWell_submit h units parameters limit
    · unfold GoesWell command?
      rw [hc]
      exact h
  | some d =>
    by_cases hd : d = c
    · subst hd
      obtain ⟨k, k', hk, hk', hstep⟩ := step_command hs hcommand
      rw [hopen] at hstep
      obtain hstep | ⟨habandon, -⟩ := hstep
      · intro k₁ hk₁ hdeadline hcompletes
        obtain rfl : k' = k₁ := Option.some.inj (hk'.symm.trans hk₁)
        have hrequest := hstep.request
        have hunits : k'.units = k.units := congrArg Prod.fst hrequest
        have hlimit : k'.deadline.map (·.2) = k.deadline.map (·.2) :=
          congrArg (fun r => r.2.2) hrequest
        rw [hdeadline, Option.map_none, eq_comm, Option.map_eq_none_iff] at hlimit
        rw [hunits] at hcompletes
        exact (h k hk hlimit hcompletes).step hcompletes hstep
      · exact absurd habandon he
    · intro k hk
      rw [command?_of_ne hs hcommand hd] at hk
      exact h k hk

/-- An open pool stays open, and a command goes well, as long as neither is ended from outside. -/
theorem GoesWell.run {s s' : System} {c : Nat} (h : s.GoesWell c) (hopen : s.pool.closed = false)
    {events : List Event} (hs : s.run? events = some s') (hclose : .close ∉ events)
    (habandon : .abandon c ∉ events) : s'.GoesWell c ∧ s'.pool.closed = false := by
  induction events generalizing s with
  | nil =>
    obtain rfl := Option.some.inj hs
    exact ⟨h, hopen⟩
  | cons e events ih =>
    obtain ⟨s₁, he, hrest⟩ := Option.bind_eq_some_iff.mp hs
    rw [List.mem_cons, not_or] at hclose habandon
    refine ih (h.step hopen he (Ne.symm habandon.1)) ?_ hrest hclose.2 habandon.2
    rw [(pool_of_step he).2 (Ne.symm hclose.1)]
    exact hopen

/-- A command that goes well has returned once the executor is at rest. -/
theorem answer?_of_atRest {s : System} (hsound : s.PoolSound) (hsize : 0 < s.pool.size)
    (hopen : s.pool.closed = false)
    (hhangs : ∀ t task, s.task? t = some task → task.unit.script.ending ≠ .hangs) {c : Nat}
    {k : Command} (hk : s.command? c = some k) (hwell : k.Well) (hrest : s.AtRest) :
    s.answer? c = some (.ok (k.units.map (·.response))) := by
  rcases hwell.state with hgathering | hreturned
  · exfalso
    by_cases hjoined : ∀ t ∈ k.tasks, t.state = .joined
    · refine not_atRest_of_step (e := .collect c) rfl ?_ hrest
      have hall : k.tasks.all (·.state = .joined) = true :=
        List.all_eq_true.mpr fun t ht => decide_eq_true (hjoined t ht)
      have hgathers : k.state.isGathering = true := by rw [hgathering]; rfl
      simp only [step, hk, Option.bind_eq_bind, Option.bind_some, hgathers, hall, and_self, if_true,
        hwell.collect hjoined]
      exact Option.some_ne_none _
    · push Not at hjoined
      obtain ⟨t, ht, hne⟩ := hjoined
      obtain ⟨i, hi⟩ := List.getElem?_of_mem ht
      have htask : s.task? (c, i) = some t := Option.bind_eq_some_iff.mpr ⟨k, hk, hi⟩
      have hstate := hwell.tasks i t hi
      cases hst : t.state with
      | spawned =>
        refine not_atRest_of_step (e := .enqueue (c, i)) rfl ?_ hrest
        simp [step, htask, hst, hopen]
      | waiting => exact not_atRest_of_waits hsound hsize hopen hhangs ⟨t, htask, hst⟩ hrest
      | executing due => exact not_atRest_of_executing htask hst (hhangs _ _ htask) hrest
      | ended how =>
        rw [hst] at hstate
        obtain rfl : how = .answered t.unit.response := hstate
        refine not_atRest_of_step (e := .join (c, i)) rfl ?_ hrest
        simp [step, htask, hk, join?, hst, hgathering, CommandState.isGathering]
      | joined => exact hne hst
      | aborted =>
        rw [hst] at hstate
        exact hstate
  · rw [answer?, hk, Option.bind_some, hreturned]

/-! ## Schedules -/

/-- A run of an executor in which command `c` runs `units`, all of which complete, without a deadline.
The other commands may do anything but hang; nobody closes the pool or gives up the command. -/
structure Schedule (size : Nat) (events : List Event) (s : System) (c : Nat)
    (units : List PreparedUnit) (parameters : List Value) : Prop where
  permit : 0 < size
  run : (ofPool size).run? events = some s
  asked : (events.filterMap (·.request?))[c]? = some (units, parameters, none)
  completes : ∀ u ∈ units, u.script.ending = .completes
  ends : ∀ r ∈ events.filterMap (·.request?), ∀ u ∈ r.1, u.script.ending ≠ .hangs
  kept : .close ∉ events
  wanted : .abandon c ∉ events

namespace Schedule

variable {size : Nat} {events : List Event} {s : System} {c : Nat} {units : List PreparedUnit}
  {parameters : List Value}

theorem requests (h : Schedule size events s c units parameters) :
    s.commands.map (·.request) = events.filterMap (·.request?) := requests_run h.run

theorem hangs (h : Schedule size events s c units parameters) (t : Nat × Nat) (task : Task)
    (ht : s.task? t = some task) : task.unit.script.ending ≠ .hangs := by
  obtain ⟨k, hk, hi⟩ := task?_eq_some ht
  have hmem : k.request ∈ events.filterMap (·.request?) := by
    rw [← h.requests]
    exact List.mem_map_of_mem (List.mem_of_getElem? hk)
  exact h.ends _ hmem _ (List.mem_map_of_mem (List.mem_of_getElem? hi))

/-- The command has come in, and goes well on an open pool. -/
theorem exists_command (h : Schedule size events s c units parameters) :
    ∃ k, s.command? c = some k ∧ k.units = units ∧ k.Well ∧ s.pool.closed = false := by
  obtain ⟨k, hk, hrequest⟩ := command_of_asked h.run h.asked
  have hunits : k.units = units := congrArg Prod.fst hrequest
  have hlimit : k.deadline.map (·.2) = none := congrArg (fun r => r.2.2) hrequest
  have hempty : (ofPool size).GoesWell c := by
    intro k hk
    cases hk
  obtain ⟨hwell, hopen⟩ := hempty.run rfl h.run h.kept h.wanted
  exact ⟨k, hk, hunits, hwell k hk (Option.map_eq_none_iff.mp hlimit) (hunits ▸ h.completes), hopen⟩

theorem answer_eq (h : Schedule size events s c units parameters)
    {answer : Except Fault (List ShardResponse)} (ha : s.answer? c = some answer) :
    answer = .ok (units.map (·.response)) := by
  obtain ⟨k, hk, rfl, hwell, -⟩ := h.exists_command
  rw [answer?, hk, Option.bind_some] at ha
  rcases hwell.state with hstate | hstate
  · rw [hstate] at ha
    cases ha
  · rw [hstate] at ha
    exact (Option.some.inj ha).symm

theorem answer?_of_atRest (h : Schedule size events s c units parameters) (hrest : s.AtRest) :
    s.answer? c = some (.ok (units.map (·.response))) := by
  obtain ⟨k, hk, rfl, hwell, hopen⟩ := h.exists_command
  have hsound := (poolSound_ofPool size).run h.run
  have hsize : 0 < s.pool.size := size_of_run h.run ▸ h.permit
  exact System.answer?_of_atRest hsound hsize hopen h.hangs hk hwell hrest

/-- A schedule goes on until the executor is at rest. -/
theorem exists_atRest (h : Schedule size events s c units parameters) :
    ∃ more s', Schedule size (events ++ more) s' c units parameters ∧ s'.AtRest := by
  obtain ⟨more, s', hrun, hrest, hown⟩ := s.exists_run_atRest
  have hrequests : more.filterMap (·.request?) = [] := by
    rw [List.filterMap_eq_nil_iff]
    intro e he
    rcases hown e he with hown | ⟨time, rfl⟩
    · cases e <;> first | rfl | cases hown
    · rfl
  have hout : ∀ e : Event, e.isOwn = false → (∀ time, e ≠ .tick time) → e ∉ more := by
    intro e hnot htick he
    rcases hown e he with hown | ⟨time, rfl⟩
    · rw [hnot] at hown
      cases hown
    · exact htick time rfl
  refine ⟨more, s', ⟨h.permit, ?_, ?_, h.completes, ?_, ?_, ?_⟩, hrest⟩
  · rw [run?_append, h.run]
    exact hrun
  · rw [List.filterMap_append, hrequests, List.append_nil]
    exact h.asked
  · rw [List.filterMap_append, hrequests, List.append_nil]
    exact h.ends
  · rw [List.mem_append, not_or]
    exact ⟨h.kept, hout _ rfl nofun⟩
  · rw [List.mem_append, not_or]
    exact ⟨h.wanted, hout _ rfl nofun⟩

end Schedule

/-- A command whose units complete is answered by one response for each unit, in their order and in so
many events: what the unit's backend yielded, packet for packet and with the cursor on its rows. The
response of each unit is the one that the unit alone is answered by, and another schedule, on a pool of
another size, answers the same. -/
theorem responses_of_schedule {size : Nat} {events : List Event} {s : System} {c : Nat}
    {units : List PreparedUnit} {parameters : List Value}
    (h : Schedule size events s c units parameters) :
    ∃ responses, List.Forall₂ PreparedUnit.Answers units responses ∧
      (∀ answer, s.answer? c = some answer → answer = .ok responses) ∧
      (s.AtRest → s.answer? c = some (.ok responses)) ∧
      events.countP (·.command?.isSome) ≤ (events.map Event.load).sum ∧
      (∃ more s', Schedule size (events ++ more) s' c units parameters ∧ s'.AtRest) ∧
      (∀ (size' : Nat) (events' : List Event) (s' : System) (c' i : Nat) (u : PreparedUnit),
        units[i]? = some u →
        Schedule size' events' s' c' [u] parameters → s'.AtRest →
          ∃ r, s'.answer? c' = some (.ok [r]) ∧ responses[i]? = some r) ∧
      (∀ size' events' s' c', Schedule size' events' s' c' units parameters → s.AtRest → s'.AtRest →
        s.answer? c = s'.answer? c' ∧ ∀ statement stream,
          (s.answer? c).map (·.map fun rs => Dispatch.reconcile statement rs stream) =
            (s'.answer? c').map (·.map fun rs => Dispatch.reconcile statement rs stream)) := by
  refine ⟨units.map (·.response), PreparedUnit.forall₂_answers_iff.mpr rfl, fun answer => h.answer_eq,
    h.answer?_of_atRest, ?_, h.exists_atRest, ?_, ?_⟩
  · have hwork := work_run h.run
    have hnone : (ofPool size).work = 0 := rfl
    omega
  · intro size' events' s' c' i u hi h' hrest
    refine ⟨u.response, h'.answer?_of_atRest hrest, ?_⟩
    rw [List.getElem?_map, hi]
    rfl
  · intro size' events' s' c' h' hrest hrest'
    have heq : s.answer? c = s'.answer? c' := by
      rw [h.answer?_of_atRest hrest, h'.answer?_of_atRest hrest']
    exact ⟨heq, fun statement stream => by rw [heq]⟩

/-- A unit on a backend that answers with `outcome` after `delay` nanoseconds. -/
def delayedUnit (id : Nat) (delay : Nat) (outcome : Outcome) : PreparedUnit :=
  ⟨"ds", ⟨⟨id, "ds", { Script.yielding outcome with delay }⟩, id⟩⟩

/-- Two commands on one permit, the first with a unit that takes long, one that fails and one that
opens a result set without columns. -/
theorem responses_of_schedule_sharing :
    let slow := delayedUnit 0 5 (.update 1 0)
    let failing := delayedUnit 1 0 (.failure Script.tooManyConnections)
    let reading := delayedUnit 2 3 (.rows [] (.ofRows [[]] none))
    let events : List Event :=
      [.submit [slow, failing, reading] [] none, .submit [delayedUnit 3 1 (.update 2 0)] [] none,
        .enqueue (0, 1), .enqueue (1, 0), .enqueue (0, 0), .grant (0, 1), .finish (0, 1), .grant (1, 0)]
    ∃ s more s', (ofPool 1).run? events = some s ∧ (ofPool 1).run? (events ++ more) = some s' ∧
      s'.answer? 0 = some (.ok [⟨"ds", [.ok ⟨1, 1, 0, 2, 0, ""⟩], none⟩,
        ⟨"ds", [.err ⟨1, 1040, "08004", "Too many connections"⟩], none⟩,
        ⟨"ds", [.fieldCount ⟨1, 0⟩, .eof ⟨2, 0, 2⟩], some (.ofRows [[]] none)⟩]) := by
  intro slow failing reading events
  obtain ⟨s, hs⟩ : ∃ s, (ofPool 1).run? events = some s := ⟨_, rfl⟩
  have h : Schedule 1 events s 0 [slow, failing, reading] [] :=
    ⟨by decide, hs, rfl, by decide, by decide, by simp [events], by simp [events]⟩
  obtain ⟨-, -, -, -, -, ⟨more, s', h', hrest⟩, -⟩ := responses_of_schedule h
  obtain ⟨responses, hanswers, -, hanswer, -⟩ := responses_of_schedule h'
  obtain rfl := PreparedUnit.forall₂_answers_iff.mp hanswers
  exact ⟨s, more, s', hs, h'.run, hanswer hrest⟩

end System

end ShardProxy
