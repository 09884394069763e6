import ShardProxy.Proofs.Executor.Calls

/-!
# What a deadline changes

A command's deadline is looked at when it expires, and at no other time. So in a run in which it does
not expire everything happens as it would without the deadline, and in one in which it does the command
returns the deadline as its fault, or is given up:

    s.step e = some s',  e ≠ expire c   →   (s.unlimited c).step e = some (s'.unlimited c)
-/

namespace ShardProxy

namespace Command

/-- A command without its deadline. -/
def unlimited (k : Command) : Command := { k with deadline := none }

/-- A command that will return `fault`, if it returns. -/
def Fails (fault : Fault) (k : Command) : Prop :=
  k.state = .stopping fault ∨ k.state = .returned (.error fault) ∨ k.state = .abandoned

theorem Fails.step {fault : Fault} {closed : Bool} {k k' : Command} (h : k.Fails fault)
    (hs : k.Step closed k') : k'.Fails fault := by
  have gathers : k.state ≠ .gathering := by
    intro hstate
    rcases h with h | h | h <;> rw [hstate] at h <;> cases h
  cases hs with
  | task => exact h
  | take hstate | fail hstate | collect hstate | lack hstate | expire hstate =>
    exact absurd hstate gathers
  | answer hstate =>
    rcases h with h | h | h
    · rw [hstate] at h
      obtain rfl := CommandState.stopping.inj h
      exact .inr (.inl rfl)
    · rw [hstate] at h
      cases h
    · rw [hstate] at h
      cases h

end Command

namespace System

/-- An executor whose command `c` has no deadline. -/
def unlimited (s : System) (c : Nat) : System := s.modifyCommand c Command.unlimited

/-! ## Parts of a step without the deadline -/

section Parts

variable (s : System) (c : Nat)

theorem modify_modify {α : Type} (l : List α) (i j : Nat) {f g : α → α} (h : ∀ a, f (g a) = g (f a)) :
    (l.modify i f).modify j g = (l.modify j g).modify i f := by
  refine List.ext_getElem? fun n => ?_
  simp only [List.getElem?_modify, Option.map_eq_map, Option.map_map]
  refine congrArg (Option.map · l[n]?) (funext fun a => ?_)
  by_cases hi : i = n <;> by_cases hj : j = n <;> simp [hi, hj, h]

theorem modifyCommand_unlimited (d : Nat) {f : Command → Command}
    (h : ∀ k, f k.unlimited = (f k).unlimited) :
    (s.unlimited c).modifyCommand d f = (s.modifyCommand d f).unlimited c :=
  congrArg (fun commands => { s with commands }) (modify_modify s.commands c d fun k => (h k).symm)

theorem setTask_unlimited (t : Nat × Nat) (state : TaskState) :
    (s.unlimited c).setTask t state = (s.setTask t state).unlimited c :=
  s.modifyCommand_unlimited c t.1 fun _ => rfl

theorem stop_unlimited (d : Nat) (fault : Fault) :
    (s.unlimited c).stop d fault = (s.stop d fault).unlimited c := by
  have h : (s.unlimited c).modifyCommand d (·.stop fault) =
      (s.modifyCommand d (·.stop fault)).unlimited c :=
    s.modifyCommand_unlimited c d fun _ => rfl
  exact congrArg (fun r : System => { r with metrics := s.metrics.fault }) h

theorem endTask_unlimited (t : Nat × Nat) (task : Task) (state : TaskState) :
    (s.unlimited c).endTask t task state = (s.endTask t task state).unlimited c := by
  unfold endTask
  split <;> rw [setTask_unlimited] <;> rfl

theorem task?_unlimited (t : Nat × Nat) : (s.unlimited c).task? t = s.task? t :=
  s.task?_modifyCommand c (f := Command.unlimited) (fun _ => rfl) t

variable {s c}

theorem command?_unlimited {d : Nat} {k : Command} (hk : s.command? d = some k) :
    ∃ k', (s.unlimited c).command? d = some k' ∧ k'.tasks = k.tasks ∧ k'.parameters = k.parameters ∧
      k'.slots = k.slots ∧ k'.cancelled = k.cancelled ∧ k'.state = k.state ∧
      (c ≠ d → k'.deadline = k.deadline) := by
  by_cases hd : c = d
  · subst hd
    refine ⟨k.unlimited, ?_, rfl, rfl, rfl, rfl, rfl, fun h => absurd rfl h⟩
    rw [unlimited, command?_modifyCommand_self, hk]
    rfl
  · refine ⟨k, ?_, rfl, rfl, rfl, rfl, rfl, fun _ => rfl⟩
    rw [unlimited, command?_modifyCommand_of_ne _ hd]
    exact hk

end Parts

/-! ## Every event but the one -/

theorem submit_unlimited {s : System} {c : Nat} (hc : c < s.commands.length) (units : List PreparedUnit)
    (parameters : List Value) (limit : Option Duration) :
    (s.unlimited c).submit units parameters limit = (s.submit units parameters limit).unlimited c := by
  have hcommands : ∀ k : Command, s.commands.modify c Command.unlimited ++ [k] =
      (s.commands ++ [k]).modify c Command.unlimited := by
    intro k
    rw [List.modify_eq_take_cons_drop hc, List.modify_eq_take_cons_drop (by simp; omega),
      List.take_append_of_le_length (by omega), List.drop_append_of_le_length (by omega),
      List.getElem_append_left hc, List.append_assoc]
    rfl
  exact congrArg (fun commands => { s with commands })
    (hcommands (.fresh units parameters (limit.map fun d => (s.clock + d.toNanos, d))))

/-- Without its deadline command `c` leaves everything else that can happen as it is. -/
theorem step_unlimited {s s' : System} {e : Event} {c : Nat} (h : s.step e = some s')
    (he : e ≠ .expire c) (hc : c < s.commands.length) :
    (s.unlimited c).step e = some (s'.unlimited c) := by
  have pool : (s.unlimited c).pool = s.pool := rfl
  cases e with
  | submit units parameters limit =>
    obtain rfl := Option.some.inj h
    exact congrArg some (submit_unlimited hc units parameters limit)
  | enqueue t =>
    obtain ⟨task, ht, hstate, hopen, rfl⟩ := enqueue_inv h
    simp only [step, task?_unlimited, ht, hstate, pool, hopen, setTask_unlimited, Option.bind_eq_bind,
      Option.bind_some, Bool.false_eq_true, not_false_eq_true, and_self, if_true]
    rw [← hopen]
    rfl
  | grant t =>
    obtain ⟨task, k, ht, hk, hstate, hhead, hfree, hopen, rfl⟩ := grant_inv h
    obtain ⟨k', hk', -, hparameters, -⟩ := command?_unlimited (c := c) hk
    simp only [step, task?_unlimited, ht, hk', grant?, hstate, pool, hhead, hfree, hopen,
      setTask_unlimited, hparameters, Option.bind_eq_bind, Option.bind_some, Bool.false_eq_true,
      not_false_eq_true, and_self, if_true]
    rw [← hopen]
    rfl
  | refuse t =>
    obtain ⟨task, ht, hstate, hclosed, rfl⟩ := refuse_inv h
    simp only [step, task?_unlimited, ht, hstate, pool, hclosed, endTask_unlimited, Option.bind_eq_bind,
      Option.bind_some, and_self, if_true]
  | cancel t =>
    obtain ⟨task, k, ht, hk, hlive, hcancelled, rfl⟩ := cancel_inv h
    obtain ⟨k', hk', -, -, -, hcancelled', -⟩ := command?_unlimited (c := c) hk
    simp only [step, task?_unlimited, ht, hk', hlive, hcancelled', hcancelled, endTask_unlimited,
      Option.bind_eq_bind, Option.bind_some, and_self, if_true]
  | finish t =>
    obtain ⟨task, due, ht, hstate, hdue, hending, rfl⟩ := finish_inv h
    have hclock : due ≤ (s.unlimited c).clock := hdue
    simp only [step, task?_unlimited, ht, conclude?, hstate, hclock, hending, Option.bind_eq_bind,
      Option.bind_some, and_self, if_true]
    exact congrArg (fun r : System => some (r.releasePermit.note (.finished task.unit.statement)))
      (setTask_unlimited { s with metrics := _ } c t _)
  | crash t =>
    obtain ⟨task, due, ht, hstate, hdue, hending, rfl⟩ := crash_inv h
    have hclock : due ≤ (s.unlimited c).clock := hdue
    simp only [step, task?_unlimited, ht, conclude?, hstate, hclock, hending, endTask_unlimited,
      Option.bind_eq_bind, Option.bind_some, and_self, if_true]
  | join t =>
    obtain ⟨task, k, ht, hk, hgathering, hr⟩ := join_inv h
    obtain ⟨k', hk', -, -, -, -, hstate', -⟩ := command?_unlimited (c := c) hk
    have hgathers : k'.state.isGathering = true := by
      rw [hstate', hgathering]
      rfl
    rcases hr with ⟨r, hstate, rfl⟩ | ⟨fault, hstate, rfl⟩
    · simp only [step, task?_unlimited, ht, hk', hgathers, join?, hstate, setTask_unlimited,
        Option.bind_eq_bind, Option.bind_some, if_true]
      exact congrArg some (modifyCommand_unlimited _ c t.1 fun _ => rfl)
    · simp only [step, task?_unlimited, ht, hk', hgathers, join?, hstate, setTask_unlimited,
        stop_unlimited, Option.bind_eq_bind, Option.bind_some, if_true]
  | collect d =>
    obtain ⟨k, hk, hgathering, hjoined, hr⟩ := collect_inv h
    obtain ⟨k', hk', htasks, -, hslots, -, hstate', -⟩ := command?_unlimited (c := c) hk
    have hready : k'.state.isGathering = true ∧ k'.tasks.all (·.state = .joined) = true := by
      rw [hstate', hgathering, htasks]
      exact ⟨rfl, List.all_eq_true.mpr fun t ht => decide_eq_true (hjoined t ht)⟩
    rcases hr with ⟨responses, hcollect, rfl⟩ | ⟨fault, hcollect, rfl⟩
    · simp only [step, hk', hready, hslots, hcollect, Option.bind_eq_bind, Option.bind_some, and_self,
        if_true]
      exact congrArg some (modifyCommand_unlimited _ c d fun _ => rfl)
    · simp only [step, hk', hready, hslots, hcollect, stop_unlimited, Option.bind_eq_bind,
        Option.bind_some, and_self, if_true]
  | expire d =>
    have hd : c ≠ d := fun hd => he (hd ▸ rfl)
    obtain ⟨k, time, limit, hk, hdeadline, hgathering, htime, rfl⟩ := expire_inv h
    obtain ⟨k', hk', -, -, -, -, hstate', hsame⟩ := command?_unlimited (c := c) hk
    have hready : k'.state.isGathering = true ∧ time ≤ (s.unlimited c).clock := by
      rw [hstate', hgathering]
      exact ⟨rfl, htime⟩
    simp only [step, hk', hsame hd, hdeadline, hready, stop_unlimited, Option.bind_eq_bind,
      Option.bind_some, and_self, if_true]
  | abort t =>
    obtain ⟨task, k, ht, hk, hcalls, hsettled, rfl⟩ := abort_inv h
    obtain ⟨k', hk', -, -, -, -, hstate', -⟩ := command?_unlimited (c := c) hk
    simp [step, task?_unlimited, ht, hk', hstate', hcalls, hsettled, endTask_unlimited]
  | answer d =>
    obtain ⟨k, fault, hk, hstate, hsettled, rfl⟩ := answer_inv h
    obtain ⟨k', hk', htasks, -, -, -, hstate', -⟩ := command?_unlimited (c := c) hk
    have hall : k'.tasks.all (·.state.isSettled) = true := by
      rw [htasks]
      exact List.all_eq_true.mpr hsettled
    simp only [step, hk', hstate', hstate, hall, Option.bind_eq_bind, Option.bind_some, if_true]
    exact congrArg some (modifyCommand_unlimited _ c d fun _ => rfl)
  | abandon d =>
    obtain ⟨k, hk, hover, rfl⟩ := abandon_inv h
    obtain ⟨k', hk', -, -, -, -, hstate', -⟩ := command?_unlimited (c := c) hk
    simp only [step, hk', hstate', hover, Option.bind_eq_bind, Option.bind_some, Bool.false_eq_true,
      if_false]
    exact congrArg some (modifyCommand_unlimited _ c d fun _ => rfl)
  | close =>
    obtain rfl := Option.some.inj h
    rfl
  | tick time =>
    obtain ⟨htime, rfl⟩ := tick_inv h
    exact if_pos htime

/-! ## Runs -/

theorem length_le_of_step {s s' : System} {e : Event} (h : s.step e = some s') :
    s.commands.length ≤ s'.commands.length := by
  have hlength := congrArg List.length (requests_step h)
  rw [List.length_append, List.length_map, List.length_map] at hlength
  omega

theorem run_unlimited {s s' : System} {events : List Event} (h : s.run? events = some s') {c : Nat}
    (hc : c < s.commands.length) (he : .expire c ∉ events) :
    (s.unlimited c).run? events = some (s'.unlimited c) := by
  induction events generalizing s with
  | nil =>
    obtain rfl := Option.some.inj h
    rfl
  | cons e events ih =>
    obtain ⟨s₁, hs₁, hrest⟩ := Option.bind_eq_some_iff.mp h
    rw [List.mem_cons, not_or] at he
    rw [run?, step_unlimited hs₁ (Ne.symm he.1) hc]
    exact ih hrest (Nat.lt_of_lt_of_le hc (length_le_of_step hs₁)) he.2

/-- A command whose deadline expires returns that, if anything. -/
theorem answer_of_expire {s s' : System} {events : List Event} (h : s.run? events = some s') {c : Nat}
    {k : Command} (hk : s.command? c = some k) (he : .expire c ∈ events)
    {answer : Except Fault (List ShardResponse)} (ha : s'.answer? c = some answer) :
    ∃ limit, k.request.2.2 = some limit ∧ answer = .error (.deadline limit) := by
  obtain ⟨before, after, rfl⟩ := List.append_of_mem he
  rw [run?_append] at h
  obtain ⟨s₁, hbefore, h⟩ := Option.bind_eq_some_iff.mp h
  obtain ⟨s₂, hexpire, hafter⟩ := Option.bind_eq_some_iff.mp h
  obtain ⟨k₁, hk₁, hrequest⟩ := command_of_run (P := fun k' => k'.request = k.request)
    (fun hP hs => hs.request.trans hP) (fun hP _ => hP) hbefore hk rfl
  obtain ⟨k₀, time, limit, hk₀, hdeadline, -, -, rfl⟩ := expire_inv hexpire
  obtain rfl : k₀ = k₁ := Option.some.inj (hk₀.symm.trans hk₁)
  refine ⟨limit, ?_, ?_⟩
  · rw [← hrequest, Command.request, hdeadline]
    rfl
  · obtain ⟨k₂, hk₂, hfails⟩ := command_of_run (P := Command.Fails (.deadline limit))
      (fun hP hs => hP.step hs) (fun _ _ => .inr (.inr rfl)) hafter
      (by rw [command?_stop_self, hk₀]; rfl) (.inl rfl)
    rw [answer?, hk₂, Option.bind_some] at ha
    rcases hfails with hstate | hstate | hstate
    · rw [hstate] at ha
      cases ha
    · rw [hstate] at ha
      exact (Option.some.inj ha).symm
    · rw [hstate] at ha
      cases ha

theorem answer?_unlimited (s : System) (c : Nat) : (s.unlimited c).answer? c = s.answer? c := by
  unfold answer? unlimited
  rw [command?_modifyCommand_self]
  cases s.command? c <;> rfl

theorem unlimited_submit (s : System) (units : List PreparedUnit) (parameters : List Value)
    (limit : Option Duration) :
    (s.submit units parameters limit).unlimited s.commands.length = s.submit units parameters none := by
  have hcommands : ∀ k : Command, (s.commands ++ [k]).modify s.commands.length Command.unlimited =
      s.commands ++ [k.unlimited] := by
    intro k
    rw [List.modify_eq_take_cons_drop (by simp)]
    simp
  exact congrArg (fun commands => { s with commands })
    (hcommands (.fresh units parameters (limit.map fun d => (s.clock + d.toNanos, d))))

/-- In the same schedule a command returns what it returns without its deadline, or the deadline. -/
theorem answer_unlimited {s s' : System} {units : List PreparedUnit} {parameters : List Value}
    {limit : Option Duration} {events : List Event}
    (h : (s.submit units parameters limit).run? events = some s')
    {answer : Except Fault (List ShardResponse)} (ha : s'.answer? s.commands.length = some answer) :
    (∃ d, limit = some d ∧ answer = .error (.deadline d)) ∨
      ∃ s'', (s.submit units parameters none).run? events = some s'' ∧
        s''.answer? s.commands.length = some answer := by
  have hlength : s.commands.length < (s.submit units parameters limit).commands.length := by
    simp [submit]
  by_cases he : .expire s.commands.length ∈ events
  · left
    have hk : (s.submit units parameters limit).command? s.commands.length =
        some (.fresh units parameters (limit.map fun d => (s.clock + d.toNanos, d))) :=
      List.getElem?_concat_length
    obtain ⟨d, hd, hanswer⟩ := answer_of_expire h hk he ha
    refine ⟨d, ?_, hanswer⟩
    cases limit with
    | none => cases hd
    | some d' => exact hd
  · refine .inr ⟨s'.unlimited s.commands.length, ?_, by rw [answer?_unlimited]; exact ha⟩
    rw [← unlimited_submit s units parameters limit]
    exact run_unlimited h hlength he

end System

end ShardProxy
