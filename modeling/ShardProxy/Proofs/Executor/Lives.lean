import ShardProxy.Proofs.Executor.Commands

/-!
# The life of a task

The events of a run that are about one task lead it from state to state. It lines up and starts, ends in
one of five ways, and after that its result is taken or thrown away, so each of these happens once at
most:

    enqueue, grant        then one of   finish, crash, refuse, cancel, abort        then   join or abort

What has finished was started before, and a task that ended in another way never finishes.
-/

namespace ShardProxy

/-- The task that an event is about. -/
def Event.task? : Event → Option (Nat × Nat)
  | .enqueue t | .grant t | .refuse t | .cancel t | .finish t | .crash t | .join t | .abort t => some t
  | .submit .. | .collect _ | .expire _ | .answer _ | .abandon _ | .close | .tick _ => none

/-! ## From state to state -/

namespace Task

/-- What an event makes of task `t`, which runs `unit`. -/
inductive Moves (unit : PreparedUnit) (t : Nat × Nat) : Event → TaskState → TaskState → Prop
  | enqueue : Moves unit t (.enqueue t) .spawned .waiting
  | grant (due : Nat) : Moves unit t (.grant t) .waiting (.executing due)
  | refuse {state : TaskState} : state = .spawned ∨ state = .waiting →
      Moves unit t (.refuse t) state (.ended (.failed .poolClosed))
  | cancel {state : TaskState} : state.isLive = true →
      Moves unit t (.cancel t) state (.ended (.failed (.cancelled unit.dataSource)))
  | finish (due : Nat) : unit.script.ending = .completes →
      Moves unit t (.finish t) (.executing due) (.ended (.answered unit.response))
  | crash (due : Nat) : unit.script.ending = .crashes →
      Moves unit t (.crash t) (.executing due) (.ended (.failed .panicked))
  | join (how : TaskEnd) : Moves unit t (.join t) (.ended how) .joined
  | abort {state : TaskState} : state.isSettled = false → Moves unit t (.abort t) state .aborted

/-- One event after the other leads task `t` from a state to a state. -/
inductive Lives (unit : PreparedUnit) (t : Nat × Nat) : TaskState → List Event → TaskState → Prop
  | nil (state : TaskState) : Lives unit t state [] state
  | cons {e : Event} {events : List Event} {state state₁ state' : TaskState} :
      Moves unit t e state state₁ → Lives unit t state₁ events state' →
        Lives unit t state (e :: events) state'

variable {unit : PreparedUnit} {t : Nat × Nat} {e : Event} {events front back : List Event}
  {state state' : TaskState}

/-- A task that neither runs nor waits does so never again: its result is taken or thrown away. -/
theorem Moves.of_not_isLive (h : Moves unit t e state state') (hlive : state.isLive = false) :
    (e = .join t ∨ e = .abort t) ∧ state'.isSettled = true := by
  cases h with
  | enqueue | grant | finish | crash => cases hlive
  | refuse hstate => rcases hstate with rfl | rfl <;> cases hlive
  | cancel h =>
    rw [hlive] at h
    cases h
  | join => exact ⟨.inl rfl, rfl⟩
  | abort => exact ⟨.inr rfl, rfl⟩

/-- A task that is refused, cancelled or crashes ran or waited before, and does so never again. -/
theorem Moves.of_fails (h : Moves unit t e state state')
    (he : e = .refuse t ∨ e = .cancel t ∨ e = .crash t) :
    state.isLive = true ∧ state'.isLive = false := by
  cases h with
  | refuse hstate => rcases hstate with rfl | rfl <;> exact ⟨rfl, rfl⟩
  | cancel hlive => exact ⟨hlive, rfl⟩
  | crash => exact ⟨rfl, rfl⟩
  | enqueue | grant | finish | join | abort => rcases he with he | he | he <;> cases he

theorem Moves.isSettled_eq_false (h : Moves unit t e state state') : state.isSettled = false := by
  cases h with
  | enqueue | grant | finish | crash | join => rfl
  | refuse hstate => rcases hstate with rfl | rfl <;> rfl
  | cancel hlive => cases state <;> first | rfl | cases hlive
  | abort hsettled => exact hsettled

theorem Moves.eq_join (h : Moves unit t e state .joined) : e = .join t := by
  cases h
  rfl

/-- With its result taken or thrown away the life of a task is over. -/
theorem Lives.of_isSettled (h : Lives unit t state events state') (hsettled : state.isSettled = true) :
    events = [] := by
  cases h with
  | nil => rfl
  | cons hmove _ =>
    rw [hmove.isSettled_eq_false] at hsettled
    cases hsettled

theorem Lives.of_not_isLive (h : Lives unit t state events state') (hlive : state.isLive = false) :
    (∀ e ∈ events, e = .join t ∨ e = .abort t) ∧ state'.isLive = false := by
  cases h with
  | nil => exact ⟨nofun, hlive⟩
  | cons hmove hrest =>
    obtain ⟨he, hsettled⟩ := hmove.of_not_isLive hlive
    obtain rfl := hrest.of_isSettled hsettled
    cases hrest
    exact ⟨List.forall_mem_singleton.mpr he, (TaskState.not_of_isSettled hsettled).1⟩

/-- A task that still runs or waits has lined up and started, and no more. -/
theorem Lives.of_isLive (h : Lives unit t state events state') (hlive : state'.isLive = true) :
    ∀ e ∈ events, e = .enqueue t ∨ e = .grant t := by
  induction h with
  | nil => exact nofun
  | @cons e events state state₁ state' hmove hrest ih =>
    refine List.forall_mem_cons.mpr ⟨?_, ih hlive⟩
    have hlive₁ : state₁.isLive = true := by
      by_contra hnot
      rw [(hrest.of_not_isLive (Bool.not_eq_true _ ▸ hnot)).2] at hlive
      cases hlive
    cases hmove with
    | enqueue => exact .inl rfl
    | grant => exact .inr rfl
    | refuse | cancel | finish | crash | join | abort => cases hlive₁

/-- A life can be cut at any of its events. -/
theorem Lives.split (h : Lives unit t state (front ++ e :: back) state') :
    ∃ before behind, Lives unit t state front before ∧ Moves unit t e before behind ∧
      Lives unit t behind back state' := by
  induction front generalizing state with
  | nil =>
    cases h with
    | cons hmove hrest => exact ⟨_, _, .nil _, hmove, hrest⟩
  | cons f front ih =>
    cases h with
    | cons hmove hrest =>
      obtain ⟨before, behind, hfront, he, hback⟩ := ih hrest
      exact ⟨before, behind, .cons hmove hfront, he, hback⟩

/-- What only one event leads to was so before, or the event is one of the life. -/
theorem Lives.mem_of_last (h : Lives unit t state events state')
    (hlast : ∀ {f state₀}, Moves unit t f state₀ state' → f = e) : state = state' ∨ e ∈ events := by
  induction h with
  | nil => exact .inl rfl
  | cons hmove _ ih =>
    right
    rcases ih hlast with rfl | he
    · rw [hlast hmove]
      exact List.mem_cons_self
    · exact List.mem_cons_of_mem _ he

/-- A response comes of a finished execution. -/
theorem Lives.finish_of_answered {r : ShardResponse}
    (h : Lives unit t .spawned events (.ended (.answered r))) : .finish t ∈ events := by
  refine (h.mem_of_last fun hmove => ?_).resolve_left nofun
  cases hmove
  rfl

/-- What has finished was started before, and its unit completes. -/
theorem Lives.of_finish (h : Lives unit t .spawned events state') (hfinish : .finish t ∈ events) :
    .grant t ∈ events ∧ unit.script.ending = .completes := by
  obtain ⟨front, back, rfl⟩ := List.append_of_mem hfinish
  obtain ⟨before, behind, hfront, hmove, -⟩ := h.split
  cases hmove with
  | finish due hending =>
    refine ⟨List.mem_append_left _ ((hfront.mem_of_last fun hmove => ?_).resolve_left nofun), hending⟩
    cases hmove
    rfl

/-- What has finished ends with its response. -/
theorem Lives.answered_of_finish {how : TaskEnd} (h : Lives unit t .spawned events (.ended how))
    (hfinish : .finish t ∈ events) : how = .answered unit.response := by
  obtain ⟨front, back, rfl⟩ := List.append_of_mem hfinish
  obtain ⟨_, _, -, hmove, hback⟩ := h.split
  cases hmove with
  | finish due _ =>
    cases hback with
    | nil => rfl
    | cons hmove hrest =>
      obtain ⟨-, hsettled⟩ := hmove.of_not_isLive rfl
      obtain rfl := hrest.of_isSettled hsettled
      cases hrest
      cases hsettled

/-- The event that ends a task is the only one of its life that could be its finish. -/
theorem Lives.eq_finish {before behind : TaskState} (hfront : Lives unit t state front before)
    (hlive : before.isLive = true) (hback : Lives unit t behind back state')
    (hended : behind.isLive = false) (h : .finish t ∈ front ++ e :: back) : e = .finish t := by
  rcases List.mem_append.mp h with h | h
  · rcases hfront.of_isLive hlive _ h with h | h <;> cases h
  · rcases List.mem_cons.mp h with h | h
    · exact h.symm
    · rcases (hback.of_not_isLive hended).1 _ h with h | h <;> cases h

theorem Moves.of_join {before behind : TaskState} (h : Moves unit t (.join t) before behind) :
    before.isSettled = false ∧ behind.isSettled = true := by
  cases h with
  | join how => exact ⟨rfl, rfl⟩

theorem Moves.eq_aborted (h : Moves unit t (.abort t) state state') : state' = .aborted := by
  cases h
  rfl

/-- A result is taken once, and nothing comes after that. -/
theorem Lives.of_join (h : Lives unit t state (front ++ .join t :: back) state') :
    .join t ∉ front ∧ back = [] := by
  obtain ⟨_, _, hfront, hmove, hback⟩ := h.split
  refine ⟨fun hjoin => ?_, hback.of_isSettled hmove.of_join.2⟩
  obtain ⟨early, late, rfl⟩ := List.append_of_mem hjoin
  obtain ⟨_, _, -, hearly, hlate⟩ := hfront.split
  obtain rfl := hlate.of_isSettled hearly.of_join.2
  cases hlate
  have hsettled := hmove.of_join.1
  rw [hearly.of_join.2] at hsettled
  cases hsettled

end Task

/-! ## The tasks of a run -/

namespace System

variable {s s' : System} {e : Event} {events : List Event} {t : Nat × Nat}

theorem task?_stop (s : System) (c : Nat) (fault : Fault) (t : Nat × Nat) :
    (s.stop c fault).task? t = s.task? t :=
  s.task?_modifyCommand c (f := fun k => k.stop fault) (fun _ => rfl) t

/-- What an event does to the task that it is about. -/
theorem task_of_step (h : s.step e = some s') (he : e.task? = some t) :
    ∃ task state, s.task? t = some task ∧ Task.Moves task.unit t e task.state state ∧
      s'.task? t = some { task with state } := by
  have moved {task : Task} (ht : s.task? t = some task) {state : TaskState} {s₁ : System}
      (hs : s₁.task? t = (s.setTask t state).task? t)
      (hmove : Task.Moves task.unit t e task.state state) :
      ∃ task state, s.task? t = some task ∧ Task.Moves task.unit t e task.state state ∧
        s₁.task? t = some { task with state } :=
    ⟨task, state, ht, hmove, by rw [hs, task?_setTask_self, ht]; rfl⟩
  have ended {task : Task} (ht : s.task? t = some task) {state : TaskState}
      (hmove : Task.Moves task.unit t e task.state state) :
      ∃ task₁ state₁, s.task? t = some task₁ ∧ Task.Moves task₁.unit t e task₁.state state₁ ∧
        (s.endTask t task state).task? t = some { task₁ with state := state₁ } :=
    moved ht (by rw [task?, command?_endTask]; rfl) hmove
  cases e with
  | submit | collect | expire | answer | abandon | close | tick => cases he
  | enqueue t =>
    obtain rfl := Option.some.inj he
    obtain ⟨task, ht, hstate, -, rfl⟩ := enqueue_inv h
    exact moved ht rfl (hstate ▸ .enqueue)
  | grant t =>
    obtain rfl := Option.some.inj he
    obtain ⟨task, -, ht, -, hstate, -, -, -, rfl⟩ := grant_inv h
    exact moved ht rfl (hstate ▸ .grant _)
  | refuse t =>
    obtain rfl := Option.some.inj he
    obtain ⟨task, ht, hstate, -, rfl⟩ := refuse_inv h
    exact ended ht (.refuse hstate)
  | cancel t =>
    obtain rfl := Option.some.inj he
    obtain ⟨task, -, ht, -, hlive, -, rfl⟩ := cancel_inv h
    exact ended ht (.cancel hlive)
  | finish t =>
    obtain rfl := Option.some.inj he
    obtain ⟨task, due, ht, hstate, -, hending, rfl⟩ := finish_inv h
    exact moved ht rfl (hstate ▸ .finish due hending)
  | crash t =>
    obtain rfl := Option.some.inj he
    obtain ⟨task, due, ht, hstate, -, hending, rfl⟩ := crash_inv h
    exact ended ht (hstate ▸ .crash due hending)
  | join t =>
    obtain rfl := Option.some.inj he
    obtain ⟨task, -, ht, -, -, ⟨r, hstate, rfl⟩ | ⟨fault, hstate, rfl⟩⟩ := join_inv h
    · have hkept := task?_modifyCommand (s.setTask t .joined) t.1
        (f := fun c => { c with slots := c.slots.set t.2 (some r) }) (fun _ => rfl) t
      exact moved ht hkept (hstate ▸ .join (.answered r))
    · exact moved ht (task?_stop _ t.1 fault t) (hstate ▸ .join (.failed fault))
  | abort t =>
    obtain rfl := Option.some.inj he
    obtain ⟨task, -, ht, -, -, hsettled, rfl⟩ := abort_inv h
    exact ended ht (.abort hsettled)

theorem task?_submit (s : System) (units : List PreparedUnit) (parameters : List Value)
    (limit : Option Duration) (t : Nat × Nat) :
    (s.submit units parameters limit).task? t = s.task? t ∨
      s.task? t = none ∧ ∃ unit, (s.submit units parameters limit).task? t = some ⟨unit, .spawned⟩ := by
  obtain ⟨c, i⟩ := t
  unfold task? command? submit
  rcases Nat.lt_trichotomy c s.commands.length with hc | rfl | hc
  · rw [List.getElem?_append_left hc]
    exact .inl rfl
  · rw [List.getElem?_concat_length, List.getElem?_eq_none (Nat.le_refl _)]
    rw [Option.bind_some, List.getElem?_map]
    cases units[i]? with
    | none => exact .inl rfl
    | some unit => exact .inr ⟨rfl, unit, rfl⟩
  · rw [List.getElem?_eq_none (by simp; omega), List.getElem?_eq_none (by omega)]
    exact .inl rfl

/-- An event about another task, or about none, leaves a task as it is, or brings it in. -/
theorem task?_of_step (h : s.step e = some s') (he : e.task? ≠ some t) :
    s'.task? t = s.task? t ∨ s.task? t = none ∧ ∃ unit, s'.task? t = some ⟨unit, .spawned⟩ := by
  have ne {u : Nat × Nat} (hu : e.task? = some u) : u ≠ t := by
    rintro rfl
    exact he hu
  have ended {u : Nat × Nat} (hu : e.task? = some u) {task : Task} {state : TaskState} :
      (s.endTask u task state).task? t = s.task? t := by
    rw [task?, command?_endTask]
    exact s.task?_setTask_of_ne (ne hu) state
  have kept {s₁ : System} {c : Nat} {f : Command → Command} (hf : ∀ k, (f k).tasks = k.tasks) :
      (s₁.modifyCommand c f).task? t = s₁.task? t := s₁.task?_modifyCommand c hf t
  cases e with
  | submit units parameters limit =>
    obtain rfl := Option.some.inj h
    exact s.task?_submit units parameters limit t
  | enqueue u =>
    obtain ⟨-, -, -, -, rfl⟩ := enqueue_inv h
    exact .inl (s.task?_setTask_of_ne (ne rfl) _)
  | grant u =>
    obtain ⟨-, -, -, -, -, -, -, -, rfl⟩ := grant_inv h
    exact .inl (s.task?_setTask_of_ne (ne rfl) _)
  | refuse u =>
    obtain ⟨-, -, -, -, rfl⟩ := refuse_inv h
    exact .inl (ended rfl)
  | cancel u =>
    obtain ⟨-, -, -, -, -, -, rfl⟩ := cancel_inv h
    exact .inl (ended rfl)
  | finish u =>
    obtain ⟨-, -, -, -, -, -, rfl⟩ := finish_inv h
    exact .inl (task?_setTask_of_ne _ (ne rfl) _)
  | crash u =>
    obtain ⟨-, -, -, -, -, -, rfl⟩ := crash_inv h
    exact .inl (ended rfl)
  | join u =>
    obtain ⟨-, -, -, -, -, ⟨r, -, rfl⟩ | ⟨fault, -, rfl⟩⟩ := join_inv h
    · left
      rw [kept]
      · exact s.task?_setTask_of_ne (ne rfl) _
      · exact fun _ => rfl
    · exact .inl ((task?_stop _ u.1 fault t).trans (s.task?_setTask_of_ne (ne rfl) _))
  | collect c =>
    obtain ⟨-, -, -, -, ⟨responses, -, rfl⟩ | ⟨fault, -, rfl⟩⟩ := collect_inv h
    · exact .inl (kept fun _ => rfl)
    · exact .inl (s.task?_stop c fault t)
  | expire c =>
    obtain ⟨-, -, -, -, -, -, -, rfl⟩ := expire_inv h
    exact .inl (s.task?_stop c _ t)
  | abort u =>
    obtain ⟨-, -, -, -, -, -, rfl⟩ := abort_inv h
    exact .inl (ended rfl)
  | answer c =>
    obtain ⟨-, -, -, -, -, rfl⟩ := answer_inv h
    exact .inl (kept fun _ => rfl)
  | abandon c =>
    obtain ⟨-, -, -, rfl⟩ := abandon_inv h
    exact .inl (kept fun _ => rfl)
  | close =>
    obtain rfl := Option.some.inj h
    exact .inl rfl
  | tick time =>
    obtain ⟨-, rfl⟩ := tick_inv h
    exact .inl rfl

theorem run?_concat (h : s.run? (events ++ [e]) = some s') :
    ∃ s₁, s.run? events = some s₁ ∧ s₁.step e = some s' := by
  rw [run?_append] at h
  obtain ⟨s₁, hs₁, hlast⟩ := Option.bind_eq_some_iff.mp h
  obtain ⟨s₂, hs₂, hend⟩ := Option.bind_eq_some_iff.mp hlast
  exact ⟨s₁, hs₁, hs₂.trans hend⟩

/-- The events of a run that are about task `t`. -/
def eventsOf (t : Nat × Nat) (events : List Event) : List Event := events.filter (·.task? = some t)

theorem mem_eventsOf (he : e.task? = some t) : e ∈ eventsOf t events ↔ e ∈ events := by
  simp [eventsOf, he]

theorem eventsOf_append (front back : List Event) :
    eventsOf t (front ++ back) = eventsOf t front ++ eventsOf t back :=
  List.filter_append ..

theorem eventsOf_cons (he : e.task? = some t) : eventsOf t (e :: events) = e :: eventsOf t events :=
  List.filter_cons_of_pos (by simpa using he)

/-- A run leads a task through the events about it. -/
theorem lives_of_run {task : Task} (h : s.run? events = some s') (ht : s.task? t = some task) :
    ∃ state, s'.task? t = some { task with state } ∧
      Task.Lives task.unit t task.state (eventsOf t events) state := by
  induction events generalizing s task with
  | nil =>
    obtain rfl := Option.some.inj h
    exact ⟨task.state, ht, .nil _⟩
  | cons e events ih =>
    obtain ⟨s₁, he, hrest⟩ := Option.bind_eq_some_iff.mp h
    by_cases htask : e.task? = some t
    · obtain ⟨task₀, state₁, ht₀, hmove, ht₁⟩ := task_of_step he htask
      obtain rfl := Option.some.inj (ht₀.symm.trans ht)
      obtain ⟨state, ht', hlives⟩ := ih hrest ht₁
      refine ⟨state, ht', ?_⟩
      rw [eventsOf_cons htask]
      exact .cons hmove hlives
    · rcases task?_of_step he htask with hsame | ⟨hnone, -⟩
      · rw [eventsOf, List.filter_cons_of_neg (by simpa using htask)]
        exact ih hrest (hsame.trans ht)
      · rw [ht] at hnone
        cases hnone

/-- Where a task stands that has come in during a run, the events about it have led it there. -/
theorem lives_of_none {task : Task} (h : s.run? events = some s') (hnone : s.task? t = none)
    (ht : s'.task? t = some task) : Task.Lives task.unit t .spawned (eventsOf t events) task.state := by
  induction events generalizing s with
  | nil =>
    obtain rfl := Option.some.inj h
    rw [hnone] at ht
    cases ht
  | cons e events ih =>
    obtain ⟨s₁, he, hrest⟩ := Option.bind_eq_some_iff.mp h
    have htask : e.task? ≠ some t := by
      intro htask
      obtain ⟨task₀, -, ht₀, -⟩ := task_of_step he htask
      rw [hnone] at ht₀
      cases ht₀
    rw [eventsOf, List.filter_cons_of_neg (by simpa using htask)]
    rcases task?_of_step he htask with hsame | ⟨-, unit, hnew⟩
    · exact ih hrest (hsame.trans hnone)
    · obtain ⟨state, ht', hlives⟩ := lives_of_run hrest hnew
      obtain rfl := Option.some.inj (ht'.symm.trans ht)
      exact hlives

/-- What an event is about is there when a run has come past it. -/
theorem exists_task_of_mem (h : s.run? events = some s') (he : e ∈ events) (htask : e.task? = some t) :
    ∃ task, s'.task? t = some task := by
  induction events generalizing s with
  | nil => cases he
  | cons f events ih =>
    obtain ⟨s₁, hf, hrest⟩ := Option.bind_eq_some_iff.mp h
    rcases List.mem_cons.mp he with rfl | he
    · obtain ⟨_, _, -, -, ht⟩ := task_of_step hf htask
      obtain ⟨_, ht', -⟩ := lives_of_run hrest ht
      exact ⟨_, ht'⟩
    · exact ih hrest he

/-- The life of a task of an executor that began with none. -/
theorem lives_of_start {size : Nat} {task : Task} (h : (ofPool size).run? events = some s)
    (ht : s.task? t = some task) : Task.Lives task.unit t .spawned (eventsOf t events) task.state :=
  lives_of_none h rfl ht

end System

end ShardProxy
