import ShardProxy.Proofs.Executor.Steps
import ShardProxy.Proofs.Lists

/-!
# The permits of the pool

Every permit is free or held by a task that executes, and the line for permits is made of the tasks
that wait, each once. No event breaks this, whatever the commands are and however they end.

    free + executing = size        t ∈ queue ↔ t waits                          (System.PoolSound)
-/

namespace ShardProxy.System

/-- The sum of a number for each task of each command. -/
def total (f : Task → Nat) (s : System) : Nat := (s.commands.map fun k => (k.tasks.map f).sum).sum

/-- How many tasks execute. -/
def executing (s : System) : Nat := s.total fun k => k.state.holdsPermit.toNat

/-- Task `t` is in line for a permit. -/
def Waits (s : System) (t : Nat × Nat) : Prop :=
  ∃ task, s.task? t = some task ∧ task.state = .waiting

/-- The pool agrees with the tasks. -/
structure PoolSound (s : System) : Prop where
  permits : s.pool.free + s.executing = s.pool.size
  mem_queue : ∀ t, t ∈ s.pool.queue ↔ s.Waits t
  nodup : s.pool.queue.Nodup

theorem PoolSound.of_eq {s s' : System} (h : s.PoolSound) (hcommands : s'.commands = s.commands)
    (hpool : s'.pool = s.pool) : s'.PoolSound := by
  refine ⟨?_, ?_, hpool ▸ h.nodup⟩
  · rw [hpool, executing, total, hcommands]
    exact h.permits
  · intro t
    rw [hpool, Waits, task?, command?, hcommands]
    exact h.mem_queue t

/-! ## One task in another state -/

theorem task?_setTask_self (s : System) (t : Nat × Nat) (state : TaskState) :
    (s.setTask t state).task? t = (s.task? t).map fun k => { k with state } := by
  unfold task?
  rw [command?_setTask_self]
  cases s.command? t.1 with
  | none => rfl
  | some k => simp [Command.withTask]

theorem task?_setTask_of_ne (s : System) {t u : Nat × Nat} (h : t ≠ u) (state : TaskState) :
    (s.setTask t state).task? u = s.task? u := by
  unfold task?
  by_cases hc : t.1 = u.1
  · have hi : t.2 ≠ u.2 := fun hi => h (Prod.ext hc hi)
    rw [← hc, command?_setTask_self]
    cases s.command? t.1 with
    | none => rfl
    | some k => simp [Command.withTask, hi]
  · rw [command?_setTask_of_ne _ hc]

theorem waits_setTask {s : System} {t : Nat × Nat} {task : Task} (ht : s.task? t = some task)
    (state : TaskState) (u : Nat × Nat) :
    (s.setTask t state).Waits u ↔ (u = t ∧ state = .waiting) ∨ (u ≠ t ∧ s.Waits u) := by
  unfold Waits
  by_cases hu : u = t
  · subst hu
    simp [task?_setTask_self, ht]
  · simp [task?_setTask_of_ne s (Ne.symm hu), hu]

theorem total_setTask (f : Task → Nat) {s : System} {t : Nat × Nat} {task : Task}
    (ht : s.task? t = some task) (state : TaskState) :
    (s.setTask t state).total f + f task = s.total f + f { task with state } := by
  obtain ⟨k, hk, hi⟩ := task?_eq_some ht
  have htasks := sum_map_modify f (fun k => { k with state }) hi
  have hcommands : (s.setTask t state).total f + (k.tasks.map f).sum =
      s.total f + ((k.tasks.modify t.2 fun k => { k with state }).map f).sum :=
    sum_map_modify (fun k : Command => (k.tasks.map f).sum) (fun k => k.withTask t.2 state) hk
  omega

theorem PoolSound.not_mem_queue {s : System} (h : s.PoolSound) {t : Nat × Nat} {task : Task}
    (ht : s.task? t = some task) (hstate : task.state ≠ .waiting) : t ∉ s.pool.queue := by
  rw [h.mem_queue]
  rintro ⟨task', ht', hwaiting⟩
  obtain rfl : task = task' := Option.some.inj (ht.symm.trans ht')
  exact hstate hwaiting

/-- A task that needs no permit any more leaves the line and gives back the permit that it holds. -/
theorem PoolSound.leave {s : System} (h : s.PoolSound) {t : Nat × Nat} {task : Task}
    (ht : s.task? t = some task) {state : TaskState} (hpermit : state.holdsPermit = false)
    (hwaiting : state ≠ .waiting) {p : Pool} (hsize : p.size = s.pool.size)
    (hfree : p.free = s.pool.free + task.state.holdsPermit.toNat)
    (hqueue : p.queue = s.pool.queue.filter (· != t)) :
    PoolSound { s.setTask t state with pool := p } := by
  refine ⟨?_, fun u => ?_, ?_⟩
  · have htotal := total_setTask (fun k => k.state.holdsPermit.toNat) ht state
    have hold := h.permits
    show p.free + (s.setTask t state).executing = p.size
    rw [hpermit] at htotal
    unfold executing at hold ⊢
    simp only [Bool.toNat_false] at htotal
    omega
  · show u ∈ p.queue ↔ (s.setTask t state).Waits u
    rw [hqueue, List.mem_filter, waits_setTask ht, h.mem_queue u]
    simp [hwaiting, and_comm]
  · show p.queue.Nodup
    rw [hqueue]
    exact h.nodup.filter _

theorem PoolSound.filter_queue {s : System} (h : s.PoolSound) {t : Nat × Nat} {task : Task}
    (ht : s.task? t = some task) (hstate : task.state ≠ .waiting) :
    s.pool.queue = s.pool.queue.filter (· != t) := by
  refine (List.filter_eq_self.mpr fun u hu => ?_).symm
  rw [bne_iff_ne]
  rintro rfl
  exact h.not_mem_queue ht hstate hu

/-- A task that executes is over and gives back its permit. -/
theorem PoolSound.leaveExecuting {s : System} (h : s.PoolSound) {t : Nat × Nat} {task : Task}
    (ht : s.task? t = some task) {due : Nat} (hstate : task.state = .executing due)
    {state : TaskState} (hpermit : state.holdsPermit = false) (hwaiting : state ≠ .waiting) :
    (s.setTask t state).releasePermit.PoolSound :=
  h.leave ht hpermit hwaiting rfl (by rw [hstate]; rfl)
    (h.filter_queue ht (by rw [hstate]; exact nofun))

/-- A task that neither waits nor executes goes on. -/
theorem PoolSound.setTask {s : System} (h : s.PoolSound) {t : Nat × Nat} {task : Task}
    (ht : s.task? t = some task) (hold : task.state.holdsPermit = false) (hne : task.state ≠ .waiting)
    {state : TaskState} (hpermit : state.holdsPermit = false) (hwaiting : state ≠ .waiting) :
    (s.setTask t state).PoolSound :=
  h.leave ht hpermit hwaiting rfl (by rw [hold]; rfl) (h.filter_queue ht hne)

theorem PoolSound.endTask {s : System} (h : s.PoolSound) {t : Nat × Nat} {task : Task}
    (ht : s.task? t = some task) {state : TaskState} (hpermit : state.holdsPermit = false)
    (hwaiting : state ≠ .waiting) : (s.endTask t task state).PoolSound := by
  cases hstate : task.state with
  | executing due =>
    simp only [System.endTask, hstate]
    exact (h.leaveExecuting ht hstate hpermit hwaiting).of_eq rfl rfl
  | waiting =>
    simp only [System.endTask, hstate]
    exact h.leave ht hpermit hwaiting rfl (by rw [hstate]; rfl) rfl
  | spawned | ended | joined | aborted =>
    simp only [System.endTask, hstate]
    exact h.setTask ht (by rw [hstate]; rfl) (by rw [hstate]; exact nofun) hpermit hwaiting

theorem total_modifyCommand (g : Task → Nat) (s : System) (c : Nat) {f : Command → Command}
    (hf : ∀ k, (f k).tasks = k.tasks) : (s.modifyCommand c f).total g = s.total g := by
  unfold total modifyCommand
  rcases hc : s.commands[c]? with _ | k
  · rw [List.modify_eq_self (List.getElem?_eq_none_iff.mp hc)]
  · have hsum := sum_map_modify (fun k : Command => (k.tasks.map g).sum) f hc
    rw [hf] at hsum
    exact Nat.add_right_cancel hsum

theorem task?_modifyCommand (s : System) (c : Nat) {f : Command → Command}
    (hf : ∀ k, (f k).tasks = k.tasks) (t : Nat × Nat) :
    (s.modifyCommand c f).task? t = s.task? t := by
  unfold task?
  by_cases hc : c = t.1
  · subst hc
    rw [command?_modifyCommand_self]
    cases s.command? t.1 with
    | none => rfl
    | some k => simp [hf]
  · rw [command?_modifyCommand_of_ne _ hc]

/-- A command changes, but none of its tasks. -/
theorem PoolSound.modifyCommand {s : System} (h : s.PoolSound) (c : Nat) {f : Command → Command}
    (hf : ∀ k, (f k).tasks = k.tasks) : (s.modifyCommand c f).PoolSound := by
  refine ⟨?_, fun t => ?_, h.nodup⟩
  · unfold executing
    rw [total_modifyCommand _ s c hf]
    exact h.permits
  · unfold Waits
    rw [task?_modifyCommand s c hf]
    exact h.mem_queue t

theorem PoolSound.stop {s : System} (h : s.PoolSound) (c : Nat) (fault : Fault) :
    (s.stop c fault).PoolSound :=
  (h.modifyCommand c (f := fun k => k.stop fault) fun _ => rfl).of_eq rfl rfl

theorem exists_executing {s : System} (h : 0 < s.executing) :
    ∃ t task due, s.task? t = some task ∧ task.state = .executing due := by
  obtain ⟨x, hx, hpos⟩ := List.sum_pos_iff_exists_pos_nat.mp h
  obtain ⟨k, hk, rfl⟩ := List.mem_map.mp hx
  obtain ⟨y, hy, hpos⟩ := List.sum_pos_iff_exists_pos_nat.mp hpos
  obtain ⟨task, ht, rfl⟩ := List.mem_map.mp hy
  obtain ⟨c, hc⟩ := List.getElem?_of_mem hk
  obtain ⟨i, hi⟩ := List.getElem?_of_mem ht
  have hexecuting : ∃ due, task.state = .executing due := by
    cases hstate : task.state with
    | executing due => exact ⟨due, rfl⟩
    | spawned | waiting | ended | joined | aborted =>
      rw [hstate] at hpos
      cases hpos
  obtain ⟨due, hstate⟩ := hexecuting
  exact ⟨(c, i), task, due, Option.bind_eq_some_iff.mpr ⟨k, hc, hi⟩, hstate⟩

/-! ## Every event -/

theorem total_submit (f : Task → Nat) (s : System) (units : List PreparedUnit)
    (parameters : List Value) (limit : Option Duration) :
    (s.submit units parameters limit).total f =
      s.total f + (units.map fun u => f ⟨u, .spawned⟩).sum := by
  simp [total, submit, Function.comp_def]

theorem PoolSound.submit {s : System} (h : s.PoolSound) (units : List PreparedUnit)
    (parameters : List Value) (limit : Option Duration) :
    (s.submit units parameters limit).PoolSound := by
  have hwaits : ∀ t, (s.submit units parameters limit).Waits t ↔ s.Waits t := by
    rintro ⟨c, i⟩
    unfold Waits task? command? System.submit
    rcases Nat.lt_trichotomy c s.commands.length with hc | rfl | hc
    · rw [List.getElem?_append_left hc]
    · rw [List.getElem?_concat_length, List.getElem?_eq_none (Nat.le_refl _)]
      simp
    · rw [List.getElem?_eq_none (by simp; omega), List.getElem?_eq_none (by omega)]
  refine ⟨?_, fun t => ?_, h.nodup⟩
  · have hnone : (units.map fun _ => 0).sum = 0 := by simp
    have htotal : (s.submit units parameters limit).executing = s.executing :=
      (total_submit _ s units parameters limit).trans (congrArg (s.executing + ·) hnone)
    rw [htotal]
    exact h.permits
  · rw [hwaits]
    exact h.mem_queue t

theorem PoolSound.enqueue {s : System} (h : s.PoolSound) {t : Nat × Nat} {task : Task}
    (ht : s.task? t = some task) (hstate : task.state = .spawned) :
    PoolSound { s.setTask t .waiting with
      pool := { s.pool with queue := s.pool.queue ++ [t] } } := by
  have hout : t ∉ s.pool.queue := h.not_mem_queue ht (by rw [hstate]; exact nofun)
  refine ⟨?_, fun u => ?_, ?_⟩
  · have htotal : (s.setTask t .waiting).executing + task.state.holdsPermit.toNat = s.executing + 0 :=
      total_setTask _ ht _
    rw [hstate] at htotal
    show s.pool.free + (s.setTask t .waiting).executing = s.pool.size
    rw [show (s.setTask t .waiting).executing = s.executing from htotal]
    exact h.permits
  · show u ∈ s.pool.queue ++ [t] ↔ (s.setTask t .waiting).Waits u
    rw [List.mem_append, List.mem_singleton, waits_setTask ht, h.mem_queue u]
    by_cases hu : u = t <;> simp [hu]
  · exact List.nodup_append.mpr ⟨h.nodup, List.pairwise_singleton _ t, by
      rintro u hu v hv rfl
      exact hout (List.mem_singleton.mp hv ▸ hu)⟩

theorem PoolSound.grant {s : System} (h : s.PoolSound) {t : Nat × Nat} {task : Task}
    (ht : s.task? t = some task) (hstate : task.state = .waiting)
    (hhead : s.pool.queue.head? = some t) (hfree : 0 < s.pool.free) (due : Nat) :
    PoolSound { s.setTask t (.executing due) with
      pool := { s.pool with free := s.pool.free - 1, queue := s.pool.queue.tail } } := by
  obtain ⟨rest, hqueue⟩ : ∃ rest, s.pool.queue = t :: rest := List.head?_eq_some_iff.mp hhead
  have hnodup := h.nodup
  rw [hqueue, List.nodup_cons] at hnodup
  refine ⟨?_, fun u => ?_, ?_⟩
  · have htotal : (s.setTask t (.executing due)).executing + task.state.holdsPermit.toNat =
        s.executing + 1 := total_setTask _ ht _
    rw [hstate] at htotal
    have htotal' : (s.setTask t (.executing due)).executing = s.executing + 1 := htotal
    have hold := h.permits
    show s.pool.free - 1 + (s.setTask t (.executing due)).executing = s.pool.size
    omega
  · show u ∈ s.pool.queue.tail ↔ (s.setTask t (.executing due)).Waits u
    rw [waits_setTask ht, ← h.mem_queue u, hqueue]
    by_cases hu : u = t
    · subst hu
      simp [hnodup.1]
    · simp [hu]
  · rw [show s.pool.queue.tail = rest by rw [hqueue]; rfl]
    exact hnodup.2

/-- No event makes the pool disagree with the tasks. -/
theorem PoolSound.step {s s' : System} {e : Event} (h : s.PoolSound) (hs : s.step e = some s') :
    s'.PoolSound := by
  cases e with
  | submit units parameters limit =>
    obtain rfl := Option.some.inj hs
    exact h.submit units parameters limit
  | enqueue t =>
    obtain ⟨task, ht, hstate, -, rfl⟩ := enqueue_inv hs
    exact h.enqueue ht hstate
  | grant t =>
    obtain ⟨task, k, ht, -, hstate, hhead, hfree, -, rfl⟩ := grant_inv hs
    exact (h.grant ht hstate hhead hfree _).of_eq rfl rfl
  | refuse t =>
    obtain ⟨task, ht, -, -, rfl⟩ := refuse_inv hs
    exact h.endTask ht rfl nofun
  | cancel t =>
    obtain ⟨task, k, ht, -, -, -, rfl⟩ := cancel_inv hs
    exact h.endTask ht rfl nofun
  | finish t =>
    obtain ⟨task, due, ht, hstate, -, -, rfl⟩ := finish_inv hs
    have hleft : (s.setTask t (.ended (.answered task.unit.response))).releasePermit.PoolSound :=
      h.leaveExecuting ht hstate rfl nofun
    exact hleft.of_eq rfl rfl
  | crash t =>
    obtain ⟨task, due, ht, -, -, -, rfl⟩ := crash_inv hs
    exact h.endTask ht rfl nofun
  | join t =>
    obtain ⟨task, k, ht, -, -, hr⟩ := join_inv hs
    have hended : ∃ how, task.state = .ended how := by
      rcases hr with ⟨r, hstate, -⟩ | ⟨fault, hstate, -⟩
      · exact ⟨_, hstate⟩
      · exact ⟨_, hstate⟩
    obtain ⟨how, hstate⟩ := hended
    have hjoined : (s.setTask t .joined).PoolSound :=
      h.setTask ht (by rw [hstate]; rfl) (by rw [hstate]; exact nofun) rfl nofun
    rcases hr with ⟨r, -, rfl⟩ | ⟨fault, -, rfl⟩
    · exact hjoined.modifyCommand t.1 fun _ => rfl
    · exact hjoined.stop t.1 fault
  | collect c =>
    obtain ⟨k, -, -, -, ⟨responses, -, rfl⟩ | ⟨fault, -, rfl⟩⟩ := collect_inv hs
    · exact h.modifyCommand c fun _ => rfl
    · exact h.stop c fault
  | expire c =>
    obtain ⟨k, time, limit, -, -, -, -, rfl⟩ := expire_inv hs
    exact h.stop c _
  | abort t =>
    obtain ⟨task, k, ht, -, -, -, rfl⟩ := abort_inv hs
    exact h.endTask ht rfl nofun
  | answer c =>
    obtain ⟨k, fault, -, -, -, rfl⟩ := answer_inv hs
    exact h.modifyCommand c fun _ => rfl
  | abandon c =>
    obtain ⟨k, -, -, rfl⟩ := abandon_inv hs
    exact h.modifyCommand c fun _ => rfl
  | close =>
    obtain rfl := Option.some.inj hs
    exact ⟨h.permits, h.mem_queue, h.nodup⟩
  | tick time =>
    obtain ⟨-, rfl⟩ := tick_inv hs
    exact h.of_eq rfl rfl

theorem poolSound_ofPool (size : Nat) : (ofPool size).PoolSound := by
  refine ⟨rfl, fun t => ?_, List.nodup_nil⟩
  constructor
  · exact nofun
  · rintro ⟨task, ht, -⟩
    obtain ⟨k, hk, -⟩ := task?_eq_some ht
    cases hk

/-- In every state that a run leads to, the pool agrees with the tasks. -/
theorem PoolSound.run {s s' : System} {events : List Event} (h : s.PoolSound)
    (hs : s.run? events = some s') : s'.PoolSound := by
  induction events generalizing s with
  | nil =>
    obtain rfl := Option.some.inj hs
    exact h
  | cons e events ih =>
    obtain ⟨s₁, he, hrest⟩ := Option.bind_eq_some_iff.mp hs
    exact ih (h.step he) hrest

/-! ## Size and closing -/

theorem pool_endTask (s : System) (t : Nat × Nat) (task : Task) (state : TaskState) :
    (s.endTask t task state).pool.size = s.pool.size ∧
      (s.endTask t task state).pool.closed = s.pool.closed := by
  unfold System.endTask
  split <;> exact ⟨rfl, rfl⟩

/-- A pool keeps its size, and only `close` closes it. -/
theorem pool_of_step {s s' : System} {e : Event} (hs : s.step e = some s') :
    s'.pool.size = s.pool.size ∧ (e ≠ .close → s'.pool.closed = s.pool.closed) := by
  have endTask {t : Nat × Nat} {task : Task} {state : TaskState} :
      (s.endTask t task state).pool.size = s.pool.size ∧
        (e ≠ .close → (s.endTask t task state).pool.closed = s.pool.closed) :=
    (s.pool_endTask t task state).imp_right fun h _ => h
  cases e with
  | submit units parameters limit =>
    obtain rfl := Option.some.inj hs
    exact ⟨rfl, fun _ => rfl⟩
  | enqueue t =>
    obtain ⟨task, -, -, -, rfl⟩ := enqueue_inv hs
    exact ⟨rfl, fun _ => rfl⟩
  | grant t =>
    obtain ⟨task, k, -, -, -, -, -, -, rfl⟩ := grant_inv hs
    exact ⟨rfl, fun _ => rfl⟩
  | refuse t =>
    obtain ⟨task, -, -, -, rfl⟩ := refuse_inv hs
    exact endTask
  | cancel t =>
    obtain ⟨task, k, -, -, -, -, rfl⟩ := cancel_inv hs
    exact endTask
  | finish t =>
    obtain ⟨task, due, -, -, -, -, rfl⟩ := finish_inv hs
    exact ⟨rfl, fun _ => rfl⟩
  | crash t =>
    obtain ⟨task, due, -, -, -, -, rfl⟩ := crash_inv hs
    exact endTask
  | join t =>
    obtain ⟨task, k, -, -, -, ⟨r, -, rfl⟩ | ⟨fault, -, rfl⟩⟩ := join_inv hs
    · exact ⟨rfl, fun _ => rfl⟩
    · exact ⟨rfl, fun _ => rfl⟩
  | collect c =>
    obtain ⟨k, -, -, -, ⟨responses, -, rfl⟩ | ⟨fault, -, rfl⟩⟩ := collect_inv hs
    · exact ⟨rfl, fun _ => rfl⟩
    · exact ⟨rfl, fun _ => rfl⟩
  | expire c =>
    obtain ⟨k, time, limit, -, -, -, -, rfl⟩ := expire_inv hs
    exact ⟨rfl, fun _ => rfl⟩
  | abort t =>
    obtain ⟨task, k, -, -, -, -, rfl⟩ := abort_inv hs
    exact endTask
  | answer c =>
    obtain ⟨k, fault, -, -, -, rfl⟩ := answer_inv hs
    exact ⟨rfl, fun _ => rfl⟩
  | abandon c =>
    obtain ⟨k, -, -, rfl⟩ := abandon_inv hs
    exact ⟨rfl, fun _ => rfl⟩
  | close =>
    obtain rfl := Option.some.inj hs
    exact ⟨rfl, fun h => absurd rfl h⟩
  | tick time =>
    obtain ⟨-, rfl⟩ := tick_inv hs
    exact ⟨rfl, fun _ => rfl⟩

theorem size_of_run {s s' : System} {events : List Event} (hs : s.run? events = some s') :
    s'.pool.size = s.pool.size := by
  induction events generalizing s with
  | nil =>
    obtain rfl := Option.some.inj hs
    rfl
  | cons e events ih =>
    obtain ⟨s₁, he, hrest⟩ := Option.bind_eq_some_iff.mp hs
    exact (ih hrest).trans (pool_of_step he).1

end ShardProxy.System
