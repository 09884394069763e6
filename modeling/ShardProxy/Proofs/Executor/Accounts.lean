import Mathlib.Data.List.Induction
import Mathlib.Data.List.Nodup
import ShardProxy.Proofs.Executor.Faults

/-!
# What the metrics count

An execution that yields its outcome is counted once, as carried out or as answered with an error,
whatever becomes of its command. A command is counted when it stops. So in every state, as far as 64 bits
reach,

    executed + failed = executions that have finished          faults = commands that were stopped

and once no command is in progress the commands that were stopped are those that returned a fault, and
those that were given up before they could.
-/

namespace ShardProxy

def Outcome.isFailure : Outcome → Bool
  | failure _ => true
  | _ => false

namespace CommandState

/-- The command has returned a fault. -/
def hasFailed : CommandState → Bool
  | returned (.error _) => true
  | _ => false

def isAbandoned : CommandState → Bool
  | abandoned => true
  | _ => false

end CommandState

/-- The task whose execution an event ends with its outcome. -/
def Event.finished? : Event → Option (Nat × Nat)
  | .finish t => some t
  | _ => none

namespace System

/-- The tasks whose executions have yielded their outcomes, in the order in which they did. -/
def finished (events : List Event) : List (Nat × Nat) := events.filterMap (·.finished?)

theorem mem_finished {events : List Event} {t : Nat × Nat} :
    t ∈ finished events ↔ .finish t ∈ events := by
  unfold finished
  rw [List.mem_filterMap]
  constructor
  · rintro ⟨e, he, ht⟩
    cases e with
    | finish u => exact Option.some.inj ht ▸ he
    | _ => cases ht
  · intro h
    exact ⟨_, h, rfl⟩

/-- The backend of task `t` answers with rows or an update. -/
def carriedOut (s : System) (t : Nat × Nat) : Bool :=
  (s.task? t).any fun task => !task.unit.script.outcome.isFailure

/-- The backend of task `t` answers with an error. -/
def answeredError (s : System) (t : Nat × Nat) : Bool :=
  (s.task? t).any fun task => task.unit.script.outcome.isFailure

/-- How many commands were told to stop. -/
def stopped (s : System) : Nat := s.commands.countP (·.cancelled)

/-! ## What an event adds -/

section Stopped

variable (s : System)

theorem stopped_modifyCommand (c : Nat) {f : Command → Command}
    (h : ∀ k, (f k).cancelled = k.cancelled) : (s.modifyCommand c f).stopped = s.stopped := by
  cases hk : s.commands[c]? with
  | none =>
    rw [stopped, modifyCommand, List.modify_eq_self (List.getElem?_eq_none_iff.mp hk)]
    rfl
  | some k =>
    have hcount := countP_modify (·.cancelled) f hk
    rw [h k] at hcount
    exact Nat.add_right_cancel hcount

theorem stopped_setTask (t : Nat × Nat) (state : TaskState) :
    (s.setTask t state).stopped = s.stopped :=
  s.stopped_modifyCommand t.1 fun _ => rfl

theorem stopped_endTask (t : Nat × Nat) (task : Task) (state : TaskState) :
    (s.endTask t task state).stopped = s.stopped := by
  rw [stopped, commands_endTask]
  exact s.stopped_setTask t state

theorem metrics_endTask (t : Nat × Nat) (task : Task) (state : TaskState) :
    (s.endTask t task state).metrics = s.metrics := by
  unfold endTask
  split <;> rfl

variable {s}

theorem stopped_stop {c : Nat} {k : Command} (hk : s.command? c = some k)
    (hnot : k.cancelled = false) (fault : Fault) : (s.stop c fault).stopped = s.stopped + 1 := by
  have hcount := countP_modify (·.cancelled) (·.stop fault) hk
  rw [hnot] at hcount
  exact hcount

end Stopped

/-- What an event adds to the metrics, and to the commands that were told to stop. -/
inductive Books (s s' : System) : Event → Prop
  | finish {t : Nat × Nat} {task : Task} (nanos : Nat) : s.task? t = some task →
      s'.metrics = measured s.metrics task.unit.script.outcome nanos → s'.stopped = s.stopped →
        Books s s' (.finish t)
  | stop {e : Event} : e.finished? = none → s'.metrics = s.metrics.fault →
      s'.stopped = s.stopped + 1 → Books s s' e
  | rest {e : Event} : e.finished? = none → s'.metrics = s.metrics → s'.stopped = s.stopped →
      Books s s' e

variable {s s' : System} {e : Event} {events : List Event} {size : Nat}

theorem books_of_step (h : s.step e = some s')
    (hproper : ∀ c k, s.command? c = some k → k.Proper) : Books s s' e := by
  have gathers {c : Nat} {k : Command} (hk : s.command? c = some k) (hstate : k.state = .gathering) :
      k.cancelled = false := ((hproper c k hk).gathering hstate).cancelled
  cases e with
  | submit units parameters limit =>
    obtain rfl := Option.some.inj h
    refine .rest rfl rfl ?_
    simp [stopped, submit, List.countP_append]
  | enqueue t =>
    obtain ⟨-, -, -, -, rfl⟩ := enqueue_inv h
    exact .rest rfl rfl (s.stopped_setTask t _)
  | grant t =>
    obtain ⟨-, -, -, -, -, -, -, -, rfl⟩ := grant_inv h
    exact .rest rfl rfl (s.stopped_setTask t _)
  | refuse t =>
    obtain ⟨-, -, -, -, rfl⟩ := refuse_inv h
    exact .rest rfl (s.metrics_endTask ..) (s.stopped_endTask ..)
  | cancel t =>
    obtain ⟨-, -, -, -, -, -, rfl⟩ := cancel_inv h
    exact .rest rfl (s.metrics_endTask ..) (s.stopped_endTask ..)
  | finish t =>
    obtain ⟨task, due, ht, -, -, -, rfl⟩ := finish_inv h
    exact .finish _ ht rfl (stopped_setTask _ t _)
  | crash t =>
    obtain ⟨-, -, -, -, -, -, rfl⟩ := crash_inv h
    exact .rest rfl (s.metrics_endTask ..) (s.stopped_endTask ..)
  | join t =>
    obtain ⟨-, k, -, hk, hstate, ⟨r, -, rfl⟩ | ⟨fault, -, rfl⟩⟩ := join_inv h
    · refine .rest rfl rfl (Eq.trans ?_ (s.stopped_setTask t .joined))
      exact stopped_modifyCommand _ _ (f := fun c => { c with slots := c.slots.set t.2 (some r) })
        fun _ => rfl
    · have hk' : (s.setTask t .joined).command? t.1 = some (k.withTask t.2 .joined) := by
        rw [command?_setTask_self, hk]
        rfl
      have hnot : k.cancelled = false := gathers hk hstate
      refine .stop rfl rfl ((stopped_stop hk' hnot fault).trans ?_)
      rw [stopped_setTask]
  | collect c =>
    obtain ⟨k, hk, hstate, -, ⟨responses, -, rfl⟩ | ⟨fault, -, rfl⟩⟩ := collect_inv h
    · exact .rest rfl rfl (s.stopped_modifyCommand c fun _ => rfl)
    · exact .stop rfl rfl (stopped_stop hk (gathers hk hstate) fault)
  | expire c =>
    obtain ⟨k, -, limit, hk, -, hstate, -, rfl⟩ := expire_inv h
    exact .stop rfl rfl (stopped_stop hk (gathers hk hstate) _)
  | abort t =>
    obtain ⟨-, -, -, -, -, -, rfl⟩ := abort_inv h
    exact .rest rfl (s.metrics_endTask ..) (s.stopped_endTask ..)
  | answer c =>
    obtain ⟨-, -, -, -, -, rfl⟩ := answer_inv h
    exact .rest rfl rfl (s.stopped_modifyCommand c fun _ => rfl)
  | abandon c =>
    obtain ⟨-, -, -, rfl⟩ := abandon_inv h
    exact .rest rfl rfl (s.stopped_modifyCommand c fun _ => rfl)
  | close =>
    obtain rfl := Option.some.inj h
    exact .rest rfl rfl rfl
  | tick time =>
    obtain ⟨-, rfl⟩ := tick_inv h
    exact .rest rfl rfl rfl

/-! ## The metrics of a run -/

theorem measured_counts (m : Metrics) (outcome : Outcome) (nanos : Nat) :
    (measured m outcome nanos).executed = m.executed + UInt64.ofNat (!outcome.isFailure).toNat ∧
      (measured m outcome nanos).failed = m.failed + UInt64.ofNat outcome.isFailure.toNat ∧
      (measured m outcome nanos).faults = m.faults := by
  cases outcome <;> simp [measured, Metrics.success, Metrics.failure, Outcome.isFailure]

/-- How an execution is counted is known from its unit, which stays. -/
theorem counted_of_run {t : Nat × Nat} {task : Task} (h : s.run? events = some s')
    (ht : s.task? t = some task) :
    s'.carriedOut t = !task.unit.script.outcome.isFailure ∧
      s'.answeredError t = task.unit.script.outcome.isFailure := by
  obtain ⟨state, ht', -⟩ := lives_of_run h ht
  rw [carriedOut, answeredError, ht']
  exact ⟨rfl, rfl⟩

/-- A run adds to the metrics the executions that finish in it, and the commands that stop. -/
theorem metrics_of_run (h : s.run? events = some s')
    (hproper : ∀ c k, s.command? c = some k → k.Proper)
    (hfaults : s.metrics.faults = UInt64.ofNat s.stopped) :
    s'.metrics.executed =
        s.metrics.executed + UInt64.ofNat ((finished events).countP s'.carriedOut) ∧
      s'.metrics.failed =
        s.metrics.failed + UInt64.ofNat ((finished events).countP s'.answeredError) ∧
      s'.metrics.faults = UInt64.ofNat s'.stopped := by
  -- what is counted is read off the last state, so the run is taken apart at its front
  induction events generalizing s with
  | nil =>
    obtain rfl := Option.some.inj h
    simp [finished, hfaults]
  | cons e events ih =>
    obtain ⟨s₁, he, hrest⟩ := Option.bind_eq_some_iff.mp h
    have hone : s.run? [e] = some s₁ := by
      rw [run?, he]
      rfl
    have hproper₁ : ∀ c k, s₁.command? c = some k → k.Proper :=
      forall_command_of_run Command.proper_fresh (fun hproper hstep => hproper.step hstep)
        (fun _ _ => .abandon _) hone hproper
    cases books_of_step he hproper with
    | @finish t task nanos ht hmetrics hstopped =>
      obtain ⟨hexecuted, hfailed, hsame⟩ := measured_counts s.metrics task.unit.script.outcome nanos
      rw [← hmetrics] at hexecuted hfailed hsame
      obtain ⟨hexecuted', hfailed', hfaults'⟩ := ih hrest hproper₁ (by rw [hsame, hfaults, hstopped])
      obtain ⟨hcarried, hanswered⟩ := counted_of_run h ht
      have hfinished : finished (.finish t :: events) = t :: finished events := rfl
      refine ⟨?_, ?_, hfaults'⟩
      · rw [hexecuted', hexecuted, hfinished, List.countP_cons, hcarried, UInt64.add_assoc]
        cases task.unit.script.outcome.isFailure <;> simp [UInt64.add_comm]
      · rw [hfailed', hfailed, hfinished, List.countP_cons, hanswered, UInt64.add_assoc]
        cases task.unit.script.outcome.isFailure <;> simp [UInt64.add_comm]
    | stop hnone hmetrics hstopped =>
      obtain ⟨hexecuted, hfailed, hfaults'⟩ := ih hrest hproper₁
        (by rw [hmetrics, hstopped, UInt64.ofNat_add, ← hfaults]; rfl)
      have hfinished : finished (e :: events) = finished events := List.filterMap_cons_none hnone
      rw [hfinished, hexecuted, hfailed, hmetrics]
      exact ⟨rfl, rfl, hfaults'⟩
    | rest hnone hmetrics hstopped =>
      have hfinished : finished (e :: events) = finished events := List.filterMap_cons_none hnone
      rw [hfinished, ← hmetrics]
      exact ih hrest hproper₁ (by rw [hmetrics, hstopped, hfaults])

/-! ## Who is counted -/

variable {c : Nat} {k : Command} {t : Nat × Nat}

/-- An execution that has finished was started, and its unit completes. -/
theorem task_of_finished (h : (ofPool size).run? events = some s) (ht : t ∈ finished events) :
    ∃ task, s.task? t = some task ∧ .grant t ∈ events ∧ task.unit.script.ending = .completes := by
  rw [mem_finished] at ht
  obtain ⟨task, htask⟩ := exists_task_of_mem h ht rfl
  have hof := (lives_of_start h htask).of_finish ((mem_eventsOf rfl).mpr ht)
  rw [mem_eventsOf rfl] at hof
  exact ⟨task, htask, hof⟩

/-- No execution finishes twice. -/
theorem nodup_finished (h : (ofPool size).run? events = some s) : (finished events).Nodup := by
  induction events using List.reverseRecOn generalizing s with
  | nil => exact List.nodup_nil
  | append_singleton front e ih =>
    obtain ⟨s₁, hfront, hlast⟩ := run?_concat h
    unfold finished
    rw [List.filterMap_append]
    refine List.nodup_append.mpr ⟨ih hfront, ?_, ?_⟩
    · cases e <;> simp [Event.finished?]
    · rintro t ht u hu rfl
      obtain ⟨f, hf, hft⟩ := List.mem_filterMap.mp hu
      obtain rfl := List.mem_singleton.mp hf
      cases f with
      | finish u =>
        obtain rfl := Option.some.inj hft
        obtain ⟨task, due, htask, hstate, -⟩ := finish_inv hlast
        have hlives := lives_of_start hfront htask
        rw [hstate] at hlives
        rcases hlives.of_isLive rfl _ ((mem_eventsOf rfl).mpr (mem_finished.mp ht)) with he | he <;> cases he
      | _ => cases hft

/-- A task that an event ends while it runs or waits is counted only if that is by its outcome. -/
theorem not_finished_of_step {front back : List Event} {s₁ s₂ : System} {task : Task}
    {state : TaskState} (hfront : (ofPool size).run? front = some s₁) (hback : s₂.run? back = some s)
    (htask : s₁.task? t = some task) (hlive : task.state.isLive = true)
    (htask' : s₂.task? t = some { task with state }) (hended : state.isLive = false)
    (he : e.task? = some t) (hne : e ≠ .finish t) : t ∉ finished (front ++ e :: back) := by
  obtain ⟨_, -, hlives⟩ := lives_of_run hback htask'
  intro hfinish
  rw [mem_finished, ← mem_eventsOf rfl, eventsOf_append, eventsOf_cons he] at hfinish
  exact hne ((lives_of_start hfront htask).eq_finish hlive hlives hended hfinish)

/-- A task that is refused, cancelled or crashes is not counted. -/
theorem not_finished_of_fails (h : (ofPool size).run? events = some s) (hmem : e ∈ events)
    (he : e = .refuse t ∨ e = .cancel t ∨ e = .crash t) : t ∉ finished events := by
  obtain ⟨front, back, rfl⟩ := List.append_of_mem hmem
  rw [run?_append] at h
  obtain ⟨s₁, hfront, h⟩ := Option.bind_eq_some_iff.mp h
  obtain ⟨s₂, hstep, hback⟩ := Option.bind_eq_some_iff.mp h
  have htask : e.task? = some t := by
    rcases he with rfl | rfl | rfl <;> rfl
  obtain ⟨task, state, ht, hmove, ht'⟩ := task_of_step hstep htask
  obtain ⟨hlive, hended⟩ := hmove.of_fails he
  refine not_finished_of_step hfront hback ht hlive ht' hended htask ?_
  rcases he with rfl | rfl | rfl <;> nofun

/-- A task that is called off while it runs or waits is not counted. -/
theorem not_finished_of_abort {front back : List Event} {s₁ : System} {task : Task}
    (h : (ofPool size).run? (front ++ .abort t :: back) = some s)
    (hfront : (ofPool size).run? front = some s₁) (htask : s₁.task? t = some task)
    (hlive : task.state.isLive = true) : t ∉ finished (front ++ .abort t :: back) := by
  rw [run?_append, hfront, Option.bind_some] at h
  obtain ⟨s₂, hstep, hback⟩ := Option.bind_eq_some_iff.mp h
  obtain ⟨task', state, ht, hmove, ht'⟩ := task_of_step hstep rfl
  obtain rfl := Option.some.inj (ht.symm.trans htask)
  obtain rfl := hmove.eq_aborted
  exact not_finished_of_step hfront hback ht hlive ht' rfl rfl nofun

/-- A place is filled by a task that has finished. -/
theorem finish_of_filled (h : (ofPool size).run? events = some s) (hk : s.command? c = some k) {i : Nat}
    {r : ShardResponse} (hr : k.slots[i]? = some (some r)) : .finish (c, i) ∈ events := by
  induction events using List.reverseRecOn generalizing s k with
  | nil =>
    obtain rfl := Option.some.inj h
    cases hk
  | append_singleton front e ih =>
    obtain ⟨s₁, hfront, hlast⟩ := run?_concat h
    cases hold : s₁.command? c with
    | none =>
      obtain ⟨units, parameters, deadline, rfl⟩ := fresh_of_step hlast hold hk
      rw [Command.fresh, List.getElem?_map, Option.map_eq_some_iff] at hr
      obtain ⟨-, -, hnone⟩ := hr
      cases hnone
    | some k₁ =>
      rcases slots_of_step hlast hold (proper_of_run hfront hold) hk with
        hsame | ⟨j, task, rfl, htask, hstate, -, u, -, hslots⟩
      · rw [hsame] at hr
        exact List.mem_append_left _ (ih hfront hold hr)
      · rw [hslots] at hr
        rcases getElem?_set_cases hr with ⟨rfl, -⟩ | ⟨-, hr⟩
        · have hlives := lives_of_start hfront htask
          rw [hstate] at hlives
          exact List.mem_append_left _ ((mem_eventsOf rfl).mp hlives.finish_of_answered)
        · exact List.mem_append_left _ (ih hfront hold hr)

/-- A command that succeeds has as many executions counted as it has units. -/
theorem countP_finished_of_returned (h : (ofPool size).run? events = some s)
    (hk : s.command? c = some k) {responses : List ShardResponse}
    (hstate : k.state = .returned (.ok responses)) :
    (finished events).countP (·.1 = c) = k.units.length := by
  have hslots := ((proper_of_run h hk).complete responses hstate).2
  have hlength : k.units.length = responses.length := by
    rw [Command.units, List.length_map, ← (sound_of_run h hk).slots, hslots, List.length_map]
  have hperm : ((finished events).filter (·.1 = c)).Perm
      ((List.range k.units.length).map fun i => (c, i)) := by
    refine (List.perm_ext_iff_of_nodup ((nodup_finished h).filter _) ?_).mpr fun t => ?_
    · exact List.Nodup.map (fun _ _ h => (Prod.mk.inj h).2) List.nodup_range
    · rw [List.mem_filter, List.mem_map]
      constructor
      · rintro ⟨ht, hc⟩
        obtain rfl : t.1 = c := by simpa using hc
        obtain ⟨task, htask, -⟩ := task_of_finished h ht
        obtain ⟨k', hk', hi⟩ := task?_eq_some htask
        obtain rfl := Option.some.inj (hk'.symm.trans hk)
        refine ⟨t.2, List.mem_range.mpr ?_, rfl⟩
        simpa [Command.units] using (List.getElem?_eq_some_iff.mp hi).1
      · rintro ⟨i, hi, rfl⟩
        have hi : i < responses.length := hlength ▸ List.mem_range.mp hi
        refine ⟨mem_finished.mpr (finish_of_filled h hk (r := responses[i]) ?_), by simp⟩
        rw [hslots, List.getElem?_map, List.getElem?_eq_getElem hi]
        rfl
  rw [List.countP_eq_length_filter, hperm.length_eq, List.length_map, List.length_range]

/-! ## Which commands are counted -/

/-- Of the commands that are over, those were stopped that returned a fault, and those that were given up
after they had failed. -/
theorem stopped_of_over (h : (ofPool size).run? events = some s) (hover : s.inProgress = false) :
    s.stopped = s.commands.countP (·.state.hasFailed) +
      s.commands.countP fun k => k.cancelled && k.state.isAbandoned := by
  refine countP_eq_add fun k hmem => ?_
  obtain ⟨c, hk⟩ := List.getElem?_of_mem hmem
  have hproper := proper_of_run h hk
  have hstate : k.state.isOver = true := by
    simpa using List.any_eq_false.mp hover k hmem
  rcases hk' : k.state with _ | fault | (fault | responses) | _
  · rw [hk'] at hstate
    cases hstate
  · rw [hk'] at hstate
    cases hstate
  · rw [(hproper.fault fault (by rw [hk']; rfl)).1]
    rfl
  · rw [(hproper.complete responses hk').1]
    rfl
  · rw [CommandState.isAbandoned, Bool.and_true]
    exact (Nat.zero_add _).symm

/-- A command is given up from outside only. -/
theorem ne_abandoned_of_own {closed : Bool} {k k' : Command} (h : k.Step closed k')
    (hk : k.state ≠ .abandoned) : k'.state ≠ .abandoned := by
  cases h with
  | task | take => exact hk
  | fail | collect | lack | expire | answer =>
    intro habandoned
    cases habandoned

theorem ne_abandoned_of_step (h : s.step e = some s') (he : e ≠ .abandon c)
    (hs : ∀ k, s.command? c = some k → k.state ≠ .abandoned) :
    ∀ k, s'.command? c = some k → k.state ≠ .abandoned := by
  intro k' hk'
  cases hcommand : e.command? with
  | none =>
    rcases commands_of_none h hcommand with ⟨units, parameters, limit, -, rfl⟩ | ⟨hc, -⟩
    · rcases command?_submit hk' with hold | ⟨-, rfl⟩
      · exact hs k' hold
      · intro habandoned
        cases habandoned
    · rw [command?, hc] at hk'
      exact hs k' hk'
  | some d =>
    by_cases hd : d = c
    · subst hd
      obtain ⟨k, k₁, hk, hk₁, hstep | ⟨habandon, -⟩⟩ := step_command h hcommand
      · obtain rfl := Option.some.inj (hk₁.symm.trans hk')
        exact ne_abandoned_of_own hstep (hs k hk)
      · exact absurd habandon he
    · rw [command?_of_ne h hcommand hd] at hk'
      exact hs k' hk'

theorem ne_abandoned_of_run (h : s.run? events = some s') (habandon : .abandon c ∉ events)
    (hs : ∀ k, s.command? c = some k → k.state ≠ .abandoned) :
    ∀ k, s'.command? c = some k → k.state ≠ .abandoned := by
  induction events generalizing s with
  | nil =>
    obtain rfl := Option.some.inj h
    exact hs
  | cons e events ih =>
    obtain ⟨s₁, he, hrest⟩ := Option.bind_eq_some_iff.mp h
    rw [List.mem_cons, not_or] at habandon
    exact ih hrest habandon.2 (ne_abandoned_of_step he (Ne.symm habandon.1) hs)

/-- Without a command that is given up none has been. -/
theorem countP_abandoned (h : (ofPool size).run? events = some s) (hkept : ∀ c, .abandon c ∉ events) :
    s.commands.countP (fun k => k.cancelled && k.state.isAbandoned) = 0 := by
  refine List.countP_eq_zero.mpr fun k hmem hk => ?_
  obtain ⟨c, hc⟩ := List.getElem?_of_mem hmem
  refine ne_abandoned_of_run h (hkept c) (fun _ => nofun) k hc ?_
  rcases hstate : k.state with _ | _ | _ | _ <;> simp [hstate, CommandState.isAbandoned] at hk ⊢

/-- What has finished was carried out or answered with an error. -/
theorem countP_finished (h : (ofPool size).run? events = some s) : (finished events).length =
    (finished events).countP s.carriedOut + (finished events).countP s.answeredError := by
  rw [← List.countP_true]
  refine countP_eq_add fun t ht => ?_
  obtain ⟨task, htask, -⟩ := task_of_finished h ht
  rw [carriedOut, answeredError, htask, Option.any_some, Option.any_some]
  cases task.unit.script.outcome.isFailure <;> rfl

/-- What the metrics of a run say, as far as they do not wrap. -/
theorem toNat_metrics (h : (ofPool size).run? events = some s)
    (hfinished : (finished events).length < 2 ^ 64) (hstopped : s.stopped < 2 ^ 64) :
    s.metrics.executed.toNat = (finished events).countP s.carriedOut ∧
      s.metrics.failed.toNat = (finished events).countP s.answeredError ∧
      s.metrics.total.toNat = (finished events).length ∧ s.metrics.faults.toNat = s.stopped := by
  obtain ⟨hexecuted, hfailed, hfaults⟩ := metrics_of_run h (fun _ _ => nofun) rfl
  have hzero : (ofPool size).metrics = .zero := rfl
  rw [hzero, Metrics.zero, UInt64.zero_add] at hexecuted hfailed
  have htotal := countP_finished h
  have hsize : UInt64.size = 2 ^ 64 := rfl
  have hexecuted' : s.metrics.executed.toNat = (finished events).countP s.carriedOut := by
    rw [hexecuted]
    exact UInt64.toNat_ofNat_of_lt' (by omega)
  have hfailed' : s.metrics.failed.toNat = (finished events).countP s.answeredError := by
    rw [hfailed]
    exact UInt64.toNat_ofNat_of_lt' (by omega)
  refine ⟨hexecuted', hfailed', ?_, ?_⟩
  · rw [Metrics.total, UInt64.toNat_add, hexecuted', hfailed', ← htotal, Nat.mod_eq_of_lt hfinished]
  · rw [hfaults]
    exact UInt64.toNat_ofNat_of_lt' hstopped

/-- The metrics in every state that a run leads to, as far as its counts are below 2⁶⁴. Each execution
that yields its outcome is counted, once and whatever becomes of its command; a task that ends in another
way is not counted. A command that succeeds adds one for each of its units. With no command in progress the
faults are the commands that have returned one, and those that were given up after they had failed. -/
theorem accounts_of_run (h : (ofPool size).run? events = some s)
    (hfinished : (finished events).length < 2 ^ 64) (hstopped : s.stopped < 2 ^ 64) :
    (s.metrics.executed.toNat = (finished events).countP s.carriedOut ∧
      s.metrics.failed.toNat = (finished events).countP s.answeredError ∧
      s.metrics.total.toNat = (finished events).length) ∧
    ((finished events).Nodup ∧ ∀ t, t ∈ finished events ↔ .finish t ∈ events) ∧
    (∀ t ∈ finished events, .grant t ∈ events ∧
      ∃ task, s.task? t = some task ∧ task.unit.script.ending = .completes) ∧
    (∀ e ∈ events, ∀ t, e = .refuse t ∨ e = .cancel t ∨ e = .crash t → t ∉ finished events) ∧
    (∀ front t back s₁ task, events = front ++ .abort t :: back →
      (ofPool size).run? front = some s₁ → s₁.task? t = some task → task.state.isLive = true →
        t ∉ finished events) ∧
    (∀ c k responses, s.command? c = some k → k.state = .returned (.ok responses) →
      (finished events).countP (·.1 = c) = k.units.length) ∧
    (s.inProgress = false →
      s.metrics.faults.toNat = s.commands.countP (·.state.hasFailed) +
        s.commands.countP (fun k => k.cancelled && k.state.isAbandoned) ∧
      ((∀ c, .abandon c ∉ events) →
        s.metrics.faults.toNat = s.commands.countP (·.state.hasFailed))) := by
  obtain ⟨hexecuted, hfailed, htotal, hfaults⟩ := toNat_metrics h hfinished hstopped
  refine ⟨⟨hexecuted, hfailed, htotal⟩, ⟨nodup_finished h, fun _ => mem_finished⟩, ?_, ?_, ?_, ?_, ?_⟩
  · intro t ht
    obtain ⟨task, htask, hgrant, hcompletes⟩ := task_of_finished h ht
    exact ⟨hgrant, task, htask, hcompletes⟩
  · intro e hmem t he
    exact not_finished_of_fails h hmem he
  · rintro front t back s₁ task rfl hfront htask hlive
    exact not_finished_of_abort h hfront htask hlive
  · intro c k responses hk hstate
    exact countP_finished_of_returned h hk hstate
  · intro hover
    have hsplit := stopped_of_over h hover
    refine ⟨hfaults.trans hsplit, fun hkept => ?_⟩
    rw [hfaults, hsplit, countP_abandoned h hkept, Nat.add_zero]

/-- A command that succeeds with an error in its responses, and one that fails by a crash after another
of its tasks has finished, while a third still executes. -/
theorem accounts_of_run_crashed :
    let crashing : PreparedUnit :=
      ⟨"ds", ⟨⟨2, "ds", { Script.yielding (.update 1 0) with ending := .crashes }⟩, 2⟩⟩
    let events : List Event :=
      [.submit [delayedUnit 0 0 (.update 1 0), delayedUnit 1 0 (.failure Script.tooManyConnections)] [] none,
        .submit [crashing, delayedUnit 3 0 (.update 2 0), delayedUnit 4 9 (.update 3 0)] [] none,
        .enqueue (1, 0), .enqueue (1, 1), .enqueue (1, 2), .enqueue (0, 0), .enqueue (0, 1),
        .grant (1, 0), .grant (1, 1), .grant (1, 2), .finish (1, 1), .grant (0, 0), .finish (0, 0),
        .grant (0, 1), .finish (0, 1), .crash (1, 0), .join (1, 0), .join (0, 1), .join (0, 0),
        .abort (1, 1), .collect 0, .abort (1, 2), .answer 1]
    ∃ s, (ofPool 3).run? events = some s ∧ s.inProgress = false ∧ s.metrics.executed.toNat = 2 ∧
      s.metrics.failed.toNat = 1 ∧ s.metrics.total.toNat = 3 ∧ s.metrics.faults.toNat = 1 := by
  intro crashing events
  obtain ⟨s, hs, hover, hexecuted, hfailed, hfaults, hstopped⟩ : ∃ s, (ofPool 3).run? events = some s ∧
      s.inProgress = false ∧ (finished events).countP s.carriedOut = 2 ∧
      (finished events).countP s.answeredError = 1 ∧ s.commands.countP (·.state.hasFailed) = 1 ∧
      s.stopped = 1 := ⟨_, rfl, rfl, rfl, rfl, rfl, rfl⟩
  have hfinished : (finished events).length = 3 := rfl
  obtain ⟨⟨hexecuted', hfailed', htotal⟩, -, -, -, -, -, hidle⟩ :=
    accounts_of_run hs (by rw [hfinished]; decide) (by rw [hstopped]; decide)
  refine ⟨s, hs, hover, hexecuted'.trans hexecuted, hfailed'.trans hfailed, htotal.trans hfinished,
    ((hidle hover).2 fun c => ?_).trans hfaults⟩
  simp [events]

end System

end ShardProxy
