import ShardProxy.Proofs.Executor.Gather

/-!
# Where a command stands

What holds of every command in every state, whatever the schedule, the faults and the pool are: a
response that was taken is that of its unit and stands in its place, and a command that has returned has
no task left that could still do something. What a command has returned stays.

    k.Sound,  k.Step closed k'   →   k'.Sound                    returned: every task is settled
-/

namespace ShardProxy

/-- Nothing comes of a task that is settled. -/
theorem Task.Step.isSettled_eq_false {closed : Bool} {k : Command} {unit : PreparedUnit}
    {state state' : TaskState} (h : Task.Step closed k unit state state') : state.isSettled = false := by
  cases h with
  | enqueue | grant | finish | crash => rfl
  | refuse _ hstate => rcases hstate with rfl | rfl <;> rfl
  | cancel _ hlive => cases state <;> first | rfl | cases hlive
  | abort _ hsettled => exact hsettled

/-- A task answers with the response of its unit. -/
theorem Task.Step.answered {closed : Bool} {k : Command} {unit : PreparedUnit} {state state' : TaskState}
    (h : Task.Step closed k unit state state') {r : ShardResponse} (hr : state' = .ended (.answered r)) :
    r = unit.response := by
  cases h with
  | finish => exact (TaskEnd.answered.inj (TaskState.ended.inj hr)).symm
  | enqueue | grant | refuse | cancel | crash | abort => cases hr

theorem TaskState.not_of_isSettled {state : TaskState} (h : state.isSettled = true) :
    state.isLive = false ∧ state.holdsPermit = false := by
  cases state <;> first | exact ⟨rfl, rfl⟩ | cases h

namespace Command

/-- Every task is settled. -/
def Settled (k : Command) : Prop := ∀ t ∈ k.tasks, t.state.isSettled = true

structure Sound (k : Command) : Prop where
  slots : k.slots.length = k.tasks.length
  answered : ∀ (i : Nat) (t : Task) (r : ShardResponse), k.tasks[i]? = some t →
    t.state = .ended (.answered r) → r = t.unit.response
  filled : ∀ (i : Nat) (t : Task) (r : ShardResponse), k.tasks[i]? = some t →
    k.slots[i]? = some (some r) → r = t.unit.response
  settled : ∀ answer, k.state = .returned answer → k.Settled
  complete : ∀ responses, k.state = .returned (.ok responses) → responses = k.units.map (·.response)

theorem units_fresh (units : List PreparedUnit) (parameters : List Value)
    (deadline : Option (Nat × Duration)) : (fresh units parameters deadline).units = units := by
  simp [Command.units, fresh, Function.comp_def]

theorem sound_fresh (units : List PreparedUnit) (parameters : List Value)
    (deadline : Option (Nat × Duration)) : (fresh units parameters deadline).Sound where
  slots := by simp [fresh]
  answered i t r ht hstate := by
    simp only [fresh, List.getElem?_map, Option.map_eq_some_iff] at ht
    obtain ⟨u, -, rfl⟩ := ht
    cases hstate
  filled i t r _ hslot := by
    simp only [fresh, List.getElem?_map, Option.map_eq_some_iff] at hslot
    obtain ⟨u, -, hnone⟩ := hslot
    cases hnone
  settled := nofun
  complete := nofun

/-- A command that goes on, its places being the old ones but for that of a task that answered. -/
theorem Sound.withTask {k : Command} (h : k.Sound) {i : Nat} {t : Task} (hi : k.tasks[i]? = some t)
    (hsettled : t.state.isSettled = false) {state : TaskState}
    (hanswered : ∀ r, state = .ended (.answered r) → r = t.unit.response)
    {slots : List (Option ShardResponse)} (hlength : slots.length = k.slots.length)
    (hslots : ∀ j r, slots[j]? = some (some r) →
      k.slots[j]? = some (some r) ∨ (j = i ∧ r = t.unit.response)) :
    Sound { k.withTask i state with slots } where
  slots := by
    show slots.length = (k.withTask i state).tasks.length
    rw [hlength, h.slots, Command.withTask, List.length_modify]
  answered j u r hj hstate := by
    rcases getElem?_withTask hj with ⟨rfl, t', ht', rfl⟩ | ⟨-, hj⟩
    · obtain rfl : t = t' := Option.some.inj (hi.symm.trans ht')
      exact hanswered r hstate
    · exact h.answered j u r hj hstate
  filled j u r hj hslot := by
    have hold : k.tasks[j]? = some u ∨ ∃ t', k.tasks[j]? = some t' ∧ u = { t' with state } := by
      rcases getElem?_withTask hj with ⟨rfl, t', ht', rfl⟩ | ⟨-, hj⟩
      · exact .inr ⟨t', ht', rfl⟩
      · exact .inl hj
    obtain ⟨t', ht', hunit⟩ : ∃ t', k.tasks[j]? = some t' ∧ u.unit = t'.unit := by
      rcases hold with hj | ⟨t', ht', rfl⟩
      · exact ⟨u, hj, rfl⟩
      · exact ⟨t', ht', rfl⟩
    rw [hunit]
    rcases hslots j r hslot with hslot | ⟨rfl, rfl⟩
    · exact h.filled j t' r ht' hslot
    · obtain rfl : t = t' := Option.some.inj (hi.symm.trans ht')
      rfl
  settled answer hstate := by
    have hall := h.settled answer hstate t (List.mem_of_getElem? hi)
    rw [hsettled] at hall
    cases hall
  complete responses hstate := by
    have hall := h.settled _ hstate t (List.mem_of_getElem? hi)
    rw [hsettled] at hall
    cases hall

theorem collectSlots_eq_ok {i : Nat} {slots : List (Option ShardResponse)}
    {responses : List ShardResponse} (h : System.collectSlots i slots = .ok responses) : slots = responses.map some := by
  induction slots generalizing i responses with
  | nil =>
    cases h
    rfl
  | cons slot slots ih =>
    cases slot with
    | none => cases h
    | some r =>
      rw [System.collectSlots] at h
      cases hrest : System.collectSlots (i + 1) slots with
      | error fault =>
        rw [hrest] at h
        cases h
      | ok rest =>
        rw [hrest] at h
        obtain rfl := Except.ok.inj h
        rw [List.map_cons, ← ih hrest]

/-- Responses that fill all places are those of the units. -/
theorem Sound.responses {k : Command} (h : k.Sound) {responses : List ShardResponse}
    (hslots : k.slots = responses.map some) : responses = k.units.map (·.response) := by
  have hlength : responses.length = k.tasks.length := by
    rw [← h.slots, hslots, List.length_map]
  refine List.ext_getElem? fun i => ?_
  rcases ht : k.tasks[i]? with _ | t
  · have hi : k.tasks.length ≤ i := List.getElem?_eq_none_iff.mp ht
    rw [List.getElem?_eq_none (hlength ▸ hi), List.getElem?_eq_none (by simpa [units] using hi)]
  · have hi : i < responses.length := hlength ▸ (List.getElem?_eq_some_iff.mp ht).1
    have hslot : k.slots[i]? = some (some responses[i]) := by
      rw [hslots, List.getElem?_map, List.getElem?_eq_getElem hi]
      rfl
    rw [List.getElem?_eq_getElem hi, h.filled i t _ ht hslot]
    simp [units, ht]

/-- A command that leaves its tasks and places as they are. -/
theorem Sound.of_state {k : Command} (h : k.Sound) {state : CommandState} {cancelled : Bool}
    (hsettled : ∀ answer, state = .returned answer → k.Settled)
    (hcomplete : ∀ responses, state = .returned (.ok responses) →
      responses = k.units.map (·.response)) : Sound { k with state, cancelled } :=
  ⟨h.slots, h.answered, h.filled, hsettled, hcomplete⟩

theorem Sound.stop {k : Command} (h : k.Sound) (fault : Fault) : (k.stop fault).Sound :=
  h.of_state nofun nofun

theorem Sound.abandon {k : Command} (h : k.Sound) : Sound { k with state := .abandoned } :=
  h.of_state nofun nofun

/-- Whatever happens to a command, it stays sound. -/
theorem Sound.step {closed : Bool} {k k' : Command} (h : k.Sound) (hs : k.Step closed k') :
    k'.Sound := by
  cases hs with
  | @task i t state hi hstep =>
    exact h.withTask hi hstep.isSettled_eq_false (fun r => hstep.answered) rfl fun _ _ h => .inl h
  | @take i t r hgathering hi hstate =>
    refine h.withTask hi (by rw [hstate]; rfl) (fun _ h => by cases h) List.length_set
      fun j r' hslot => ?_
    rcases getElem?_set_cases hslot with ⟨rfl, hr⟩ | ⟨-, hslot⟩
    · obtain rfl := Option.some.inj hr
      exact .inr ⟨rfl, h.answered _ t _ hi hstate⟩
    · exact .inl hslot
  | @fail i t fault hgathering hi hstate =>
    have hjoined : (k.withTask i .joined).Sound :=
      h.withTask hi (by rw [hstate]; rfl) (fun _ h => by cases h) rfl fun _ _ h => .inl h
    exact hjoined.stop fault
  | collect hgathering hjoined hslots =>
    refine h.of_state (fun _ _ t ht => by rw [hjoined t ht]; rfl) fun responses hr => ?_
    obtain rfl := Except.ok.inj (CommandState.returned.inj hr)
    exact h.responses (collectSlots_eq_ok hslots)
  | lack | expire => exact h.stop _
  | answer hstopping hsettled => exact h.of_state (fun _ _ => hsettled) nofun

/-- Of a command that is over nothing but its tasks goes on. -/
theorem Step.of_isOver {closed : Bool} {k k' : Command} (h : k.Step closed k')
    (hover : k.state.isOver = true) :
    ∃ i t state, k.tasks[i]? = some t ∧ t.state.isSettled = false ∧ k' = k.withTask i state := by
  cases h with
  | task hi hstep => exact ⟨_, _, _, hi, hstep.isSettled_eq_false, rfl⟩
  | take hstate | fail hstate | collect hstate | lack hstate | expire hstate | answer hstate =>
    rw [hstate] at hover
    cases hover

end Command

namespace System

/-! ## All commands of a run -/

/-- What an event makes of a command. -/
theorem command_of_step {s s' : System} {e : Event} (h : s.step e = some s') {c : Nat} {k : Command}
    (hk : s.command? c = some k) :
    ∃ k', s'.command? c = some k' ∧ (k' = k ∨ k.Step s.pool.closed k' ∨
      (k.state.isOver = false ∧ k' = { k with state := .abandoned })) := by
  cases hcommand : e.command? with
  | none =>
    refine ⟨k, ?_, .inl rfl⟩
    rcases commands_of_none h hcommand with ⟨units, parameters, limit, -, rfl⟩ | ⟨hc, -⟩
    · rw [command?, submit, List.getElem?_append_left (List.getElem?_eq_some_iff.mp hk).1]
      exact hk
    · rw [command?, hc]
      exact hk
  | some d =>
    by_cases hd : d = c
    · subst hd
      obtain ⟨k₀, k', hk₀, hk', hstep⟩ := step_command h hcommand
      obtain rfl : k₀ = k := Option.some.inj (hk₀.symm.trans hk)
      rcases hstep with hstep | ⟨-, habandon⟩
      · exact ⟨k', hk', .inr (.inl hstep)⟩
      · exact ⟨k', hk', .inr (.inr habandon)⟩
    · exact ⟨k, by rw [command?_of_ne h hcommand hd]; exact hk, .inl rfl⟩

theorem fresh_of_step {s s' : System} {e : Event} (h : s.step e = some s') {c : Nat} {k : Command}
    (hnone : s.command? c = none) (hk : s'.command? c = some k) :
    ∃ units parameters deadline, k = .fresh units parameters deadline := by
  cases hcommand : e.command? with
  | none =>
    rcases commands_of_none h hcommand with ⟨units, parameters, limit, -, rfl⟩ | ⟨hc, -⟩
    · rcases command?_submit hk with hold | ⟨-, rfl⟩
      · rw [hnone] at hold
        cases hold
      · exact ⟨_, _, _, rfl⟩
    · rw [command?, hc, ← command?, hnone] at hk
      cases hk
  | some d =>
    by_cases hd : d = c
    · subst hd
      obtain ⟨k₀, -, hk₀, -⟩ := step_command h hcommand
      rw [hnone] at hk₀
      cases hk₀
    · rw [command?_of_ne h hcommand hd, hnone] at hk
      cases hk

/-- What no event takes away from a command, it keeps. -/
theorem command_of_run {P : Command → Prop} (hstep : ∀ {closed k k'}, P k → k.Step closed k' → P k')
    (habandon : ∀ {k : Command}, P k → k.state.isOver = false → P { k with state := .abandoned })
    {s s' : System} {events : List Event} (h : s.run? events = some s') {c : Nat} {k : Command}
    (hk : s.command? c = some k) (hP : P k) : ∃ k', s'.command? c = some k' ∧ P k' := by
  induction events generalizing s k with
  | nil =>
    obtain rfl := Option.some.inj h
    exact ⟨k, hk, hP⟩
  | cons e events ih =>
    obtain ⟨s₁, he, hrest⟩ := Option.bind_eq_some_iff.mp h
    obtain ⟨k₁, hk₁, rfl | hkstep | ⟨hover, rfl⟩⟩ := command_of_step he hk
    · exact ih hrest hk₁ hP
    · exact ih hrest hk₁ (hstep hP hkstep)
    · exact ih hrest hk₁ (habandon hP hover)

/-- What every new command has and no event takes away, every command has. -/
theorem forall_command_of_run {P : Command → Prop}
    (hfresh : ∀ units parameters deadline, P (.fresh units parameters deadline))
    (hstep : ∀ {closed k k'}, P k → k.Step closed k' → P k')
    (habandon : ∀ {k : Command}, P k → k.state.isOver = false → P { k with state := .abandoned })
    {s s' : System} {events : List Event} (h : s.run? events = some s')
    (hs : ∀ c k, s.command? c = some k → P k) : ∀ c k, s'.command? c = some k → P k := by
  induction events generalizing s with
  | nil =>
    obtain rfl := Option.some.inj h
    exact hs
  | cons e events ih =>
    obtain ⟨s₁, he, hrest⟩ := Option.bind_eq_some_iff.mp h
    refine ih hrest fun c k hk => ?_
    cases hold : s.command? c with
    | none =>
      obtain ⟨units, parameters, deadline, rfl⟩ := fresh_of_step he hold hk
      exact hfresh units parameters deadline
    | some k₀ =>
      obtain ⟨k₁, hk₁, hkstep⟩ := command_of_step he hold
      obtain rfl : k₁ = k := Option.some.inj (hk₁.symm.trans hk)
      rcases hkstep with rfl | hkstep | ⟨hover, rfl⟩
      · exact hs c k₁ hold
      · exact hstep (hs c k₀ hold) hkstep
      · exact habandon (hs c k₀ hold) hover

/-- Events keep all commands sound, the new ones as well. -/
theorem forall_sound_of_run {s s' : System} {events : List Event} (h : s.run? events = some s')
    (hs : ∀ c k, s.command? c = some k → k.Sound) : ∀ c k, s'.command? c = some k → k.Sound :=
  forall_command_of_run Command.sound_fresh (fun hsound hstep => hsound.step hstep)
    (fun hsound _ => hsound.abandon) h hs

/-- Every command is sound in every state that a run leads to. -/
theorem sound_of_run {size : Nat} {s : System} {events : List Event}
    (h : (ofPool size).run? events = some s) {c : Nat} {k : Command} (hk : s.command? c = some k) :
    k.Sound :=
  forall_sound_of_run h (fun _ _ => nofun) c k hk

/-! ## Commands that are over -/

/-- A command that is over stays over, and its tasks stay settled once they are. -/
theorem over_of_run {s s' : System} {events : List Event} (h : s.run? events = some s') {c : Nat}
    {k : Command} (hk : s.command? c = some k) (hover : k.state.isOver = true) :
    ∃ k', s'.command? c = some k' ∧ k'.state = k.state ∧ (k.Settled → k' = k) := by
  refine command_of_run (P := fun k' => k'.state = k.state ∧ (k.Settled → k' = k)) ?_ ?_ h hk
    ⟨rfl, fun _ => rfl⟩
  · rintro closed k₁ k₂ ⟨hstate, hsame⟩ hkstep
    obtain ⟨i, t, state, hi, hsettled, rfl⟩ := hkstep.of_isOver (by rw [hstate]; exact hover)
    refine ⟨hstate, fun hall => ?_⟩
    obtain rfl := hsame hall
    rw [hall t (List.mem_of_getElem? hi)] at hsettled
    cases hsettled
  · rintro k₁ ⟨hstate, -⟩ hnot
    rw [hstate, hover] at hnot
    cases hnot

end System

end ShardProxy
