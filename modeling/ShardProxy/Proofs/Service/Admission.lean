import ShardProxy.Proofs.Service.Course
import ShardProxy.Proofs.Service.Submission

/-!
# A command is admitted and prepared as a whole, or not at all

Between the beginning of an execution and its answer, or its submission, other clients act, the executor
goes on, and the settings of the proxy change. Whatever happens, the calls that are made for its client
are those of its course; none of the statements that they open is executed before the submission, and
this hands over the units of the whole route. The main result is `execution_of_run`.
-/

namespace ShardProxy

variable {p : Proxy} {portal : Portal} {seen : Sources → Prop}

/-- What is answered has nothing ready any more. -/
theorem Stage.ready_of_answer? {stage : Stage} (h : stage.answer?.isSome = true) : stage.ready = [] := by
  cases stage with
  | preparing | connected => cases h
  | idle | executed | moved | fetched | dropped => rfl

namespace Service

variable {s s' : Service} {m : Move} {i : Nat} {before : Journal}

/-- The registries that a proxy has during a run. -/
def Offers (s : Service) (moves : List Move) (sources : Sources) : Prop :=
  ∃ t, s.Visits moves t ∧ t.proxy.sources = sources

/-- Client `i`, which had made some calls before, has an execution that began on proxy `p` for a portal
and is still before its submission. -/
def Underway (s : Service) (seen : Sources → Prop) (p : Proxy) (portal : Portal) (i : Nat)
    (before : Journal) : Prop :=
  ∃ k calls, s.clients[i]? = some k ∧ k.calls = before ++ calls ∧
    Course seen p portal k.stage k.portal.stream.resources calls ∧
    ∀ st, .statement st ∈ Journal.opened calls → ¬ s.HandedOver st

/-- A statement that an act opens is new, and the act hands nothing over. -/
theorem not_handedOver_of_opened {k : Client} {a : Act} {x : Stage × Portal × Proxy} {new : List Call}
    (hsteady : s.Steady) (hk : s.clients[i]? = some k) (hx : k.act s.proxy a = some x) (ha : a ≠ .submit)
    (hjournal : x.2.2.system.journal = s.journal ++ new) {st : Prepared}
    (hst : .statement st ∈ Journal.opened new) : ¬ (s.acted i k x).HandedOver st := by
  have hsame : (s.acted i k x).handed = s.handed := units_of_act hx ha
  intro hover
  refine (hsteady.sound.acted hk hx).not_mem_opened hjournal (hsteady.opened st ?_) hst
  exact hover.of_subset (by rw [hsame]; exact List.Subset.refl _)

namespace Underway

theorem step (h : s.Underway seen p portal i before) (hsteady : s.Steady) (hs : s.step m = some s')
    (hown : m.isForeign = false) (honly : ∀ a, m = .act i a → a.isPreparation = true)
    (hseen : seen s.proxy.sources) : s'.Underway seen p portal i before := by
  obtain ⟨k, calls, hk, hcalls, hcourse, hkept⟩ := h
  have hkept' : ∀ st, .statement st ∈ Journal.opened calls → ¬ s'.HandedOver st := by
    intro st hst
    have hopened : .statement st ∈ k.calls.opened := by
      rw [hcalls, Journal.opened_append]
      exact List.mem_append_right _ hst
    refine not_handedOver_of_move hsteady hs hown hk hopened (fun hm => ?_) (hkept st hst)
    cases honly .submit hm
  rcases client_of_step hs hk with hsame | ⟨a, x, rfl, hx, rfl⟩
  · exact ⟨k, calls, hsame, hcalls, hcourse, hkept'⟩
  · obtain ⟨new, hjournal, hcourse'⟩ := hcourse.act hx (honly a rfl) hseen
    refine ⟨_, calls ++ new, getElem?_acted hk x, ?_, hcourse', fun st hst => ?_⟩
    · rw [drop_journal hjournal, hcalls, List.append_assoc]
    · rw [Journal.opened_append] at hst
      rcases List.mem_append.mp hst with hst | hst
      · exact hkept' st hst
      · have ha : a ≠ .submit := by
          rintro rfl
          cases honly .submit rfl
        exact not_handedOver_of_opened hsteady hk hx ha hjournal hst

theorem run {moves : List Move} (h : s.Underway seen p portal i before) (hsteady : s.Steady)
    (hown : ∀ m ∈ moves, m.isForeign = false)
    (honly : ∀ a, .act i a ∈ moves → a.isPreparation = true)
    (hseen : ∀ t, s.Visits moves t → seen t.proxy.sources) (hrun : s.run? moves = some s') :
    s'.Underway seen p portal i before := by
  have hkept : s'.Steady ∧ s'.Underway seen p portal i before := by
    refine keeps_run_of_visits (J := fun t => t.Steady ∧ t.Underway seen p portal i before) ?_
      ⟨hsteady, h⟩ hrun
    intro t t' m hvisits hm ⟨hsteady, h⟩ hs
    refine ⟨hsteady.step hs (hown m hm), h.step hsteady hs (hown m hm) ?_ (hseen t hvisits)⟩
    rintro a rfl
    exact honly a hm
  exact hkept.2

/-- An execution has begun. -/
theorem ofExecute (seen : Sources → Prop) (hsteady : s.Steady) {k : Client}
    (hk : s.clients[i]? = some k) (hs : s.step (.act i .execute) = some s') :
    s'.Underway seen s.proxy k.portal i k.calls := by
  obtain ⟨k', x, hk', hx, rfl⟩ := act_inv hs
  obtain rfl : k = k' := Option.some.inj (hk.symm.trans hk')
  obtain ⟨calls, hjournal, hcourse⟩ := course_execute seen s.proxy k.portal
  rw [← Client.act_execute hx] at hjournal hcourse
  refine ⟨_, calls, getElem?_acted hk x, ?_, hcourse, fun st hst => ?_⟩
  · rw [drop_journal hjournal]
  · exact not_handedOver_of_opened hsteady hk hx Act.noConfusion hjournal hst

end Underway

/-! ## Going on -/

/-- Client `i` can go on with its execution by itself, until this is answered or hands over what it has
prepared. -/
def Proceeds (s : Service) (i : Nat) : Prop :=
  ∃ (acts : List Act) (s' : Service) (k : Client), (∀ a ∈ acts, a.isPreparation = true) ∧
    s.run? (acts.map (.act i)) = some s' ∧ s'.clients[i]? = some k ∧
    (k.stage.answer?.isSome = true ∨ (s'.step (.act i .submit)).isSome = true)

theorem Proceeds.of_act {k : Client} (hk : s.clients[i]? = some k) {a : Act}
    {x : Stage × Portal × Proxy} (hx : k.act s.proxy a = some x) (ha : a.isPreparation = true)
    (h : (s.acted i k x).Proceeds i) : s.Proceeds i := by
  obtain ⟨acts, s', k', hacts, hrun, hk', hend⟩ := h
  refine ⟨a :: acts, s', k', List.forall_mem_cons.mpr ⟨ha, hacts⟩, ?_, hk', hend⟩
  rw [List.map_cons, run?, step_act hk hx]
  exact hrun

theorem Proceeds.of_answer {k : Client} (hk : s.clients[i]? = some k)
    (h : k.stage.answer?.isSome = true) : s.Proceeds i :=
  ⟨[], s, k, List.forall_mem_nil _, rfl, hk, .inl h⟩

theorem proceeds_connected {k : Client} {statement : Statement} {ready : List PreparedUnit}
    {unit : ExecutionUnit} {units : List ExecutionUnit} {c : Connection}
    (hk : s.clients[i]? = some k) (hstage : k.stage = .connected statement ready unit units c)
    (hrest : ∀ {s' : Service} {k' : Client} {ready : List PreparedUnit}, s'.clients[i]? = some k' →
      k'.stage = .preparing statement ready units → s'.Proceeds i) : s.Proceeds i := by
  have hact : k.act s.proxy .prepare =
      some (Client.prepare s.proxy k.portal statement ready unit units c) := by
    simp only [Client.act, hstage]
  refine .of_act hk hact rfl ?_
  have hk' := getElem?_acted hk (Client.prepare s.proxy k.portal statement ready unit units c)
  rcases hprepare : (s.proxy.opened k.portal).prepare c unit statement with ⟨e | u, o⟩
  · rw [Client.prepare_error hprepare] at hk' ⊢
    exact .of_answer hk' rfl
  · rw [Client.prepare_ok hprepare] at hk' ⊢
    exact hrest hk' rfl

theorem proceeds_preparing {statement : Statement} {units : List ExecutionUnit} {s : Service}
    {k : Client} {ready : List PreparedUnit} (hk : s.clients[i]? = some k)
    (hstage : k.stage = .preparing statement ready units) : s.Proceeds i := by
  induction units generalizing s k ready with
  | nil =>
    have hact : k.act s.proxy .submit =
        some (Client.settled (s.proxy.submit k.portal statement ready)) := by
      simp only [Client.act, hstage]
    refine ⟨[], s, k, List.forall_mem_nil _, rfl, hk, .inr ?_⟩
    rw [step_act hk hact]
    rfl
  | cons unit units ih =>
    have hact : k.act s.proxy .connect =
        some (Client.connect s.proxy k.portal statement ready unit units) := by
      simp only [Client.act, hstage]
    refine .of_act hk hact rfl ?_
    have hk' := getElem?_acted hk (Client.connect s.proxy k.portal statement ready unit units)
    rcases hconnect : s.proxy.sources.connect (s.proxy.opened k.portal) unit.dataSource
      with ⟨e | c, o⟩
    · rw [Client.connect_error hconnect] at hk' ⊢
      exact .of_answer hk' rfl
    · rw [Client.connect_ok hconnect] at hk' ⊢
      exact proceeds_connected hk' rfl ih

/-- An execution that has not been submitted goes on. -/
theorem Underway.proceeds (h : s.Underway seen p portal i before) : s.Proceeds i := by
  obtain ⟨k, calls, hk, -, hcourse, -⟩ := h
  generalize hstage : k.stage = stage at hcourse
  generalize k.portal.stream.resources = held at hcourse
  cases hcourse with
  | preparing => exact proceeds_preparing hk hstage
  | connected => exact proceeds_connected hk hstage proceeds_preparing
  | nothing _ _ hanswer | declined _ hanswer | failed _ _ _ _ hanswer =>
    exact .of_answer hk (by rw [hstage, hanswer]; rfl)

/-- From the beginning of an execution to its answer or to its submission, at any time and whatever
happens meanwhile, where all commands come from clients: the client can go on, and what was done for it
is what brings its execution this far. A portal that is declined is answered why, and the only calls close
what it held from an execution before; one that is routed nowhere is answered without any call. What was
opened is not executed; once the execution is answered it is closed and is never executed. A submission
hands over the units of the whole route, each of them prepared. -/
theorem execution_of_run {p : Proxy} {size : Nat} {before during : List Move} {s₀ s₁ s₂ : Service}
    {i : Nat} {k₀ : Client} (start : p.system = .ofPool size)
    (hbefore : (ofProxy p).run? before = some s₀) (hclient : s₀.clients[i]? = some k₀)
    (hexecute : s₀.step (.act i .execute) = some s₁) (hduring : s₁.run? during = some s₂)
    (hown : ∀ m ∈ before ++ during, m.isForeign = false)
    (honly : ∀ a, .act i a ∈ during → a.isPreparation = true) :
    s₂.Proceeds i ∧ ∃ k₂ calls, s₂.clients[i]? = some k₂ ∧ k₂.calls = k₀.calls ++ calls ∧
      Course (s₁.Offers during) s₀.proxy k₀.portal k₂.stage k₂.portal.stream.resources calls ∧
      (∀ packet, s₀.proxy.Declines k₀.portal packet →
        k₂.stage.answer? = some [.err packet] ∧
          calls = k₀.portal.stream.resources.statements.map .statementClosed ++
            k₀.portal.stream.resources.connections.map .connectionClosed) ∧
      (∀ route, s₀.proxy.Routes k₀.portal route → route.units = [] →
        k₂.stage.answer? = some [.ok ⟨1, 0, 0, autocommit, 0, ""⟩] ∧ calls = []) ∧
      (k₀.portal.stream.resources.isEmpty = true → (∀ route, ¬ s₀.proxy.Admits k₀.portal route) →
        calls = []) ∧
      (∀ st parameters, .statement st ∈ Journal.opened calls → .started st parameters ∉ s₂.journal) ∧
      (k₂.stage.answer?.isSome = true →
        (∀ x ∈ Journal.opened calls, x ∈ Journal.closed calls) ∧
        ∀ {later : List Move} {s₃ : Service}, s₂.run? later = some s₃ →
          (∀ m ∈ later, m.isForeign = false) → ∀ st parameters,
            .statement st ∈ Journal.opened calls → .started st parameters ∉ s₃.journal) ∧
      ∀ {s₃ : Service}, s₂.step (.act i .submit) = some s₃ → ∃ route ready,
        s₀.proxy.Admits k₀.portal route ∧
          Prepares (s₁.Offers during) route.statement route.units ready calls ∧
          s₃.handed = s₂.handed ++ [ready] := by
  have hbeforeOwn : ∀ m ∈ before, m.isForeign = false := fun m hm => hown m (List.mem_append_left _ hm)
  have hduringOwn : ∀ m ∈ during, m.isForeign = false := fun m hm => hown m (List.mem_append_right _ hm)
  have hsteady₀ : s₀.Steady := (Steady.ofProxy start).run hbeforeOwn hbefore
  have hsteady₁ : s₁.Steady := hsteady₀.step hexecute rfl
  have hsteady₂ : s₂.Steady := hsteady₁.run hduringOwn hduring
  have hunderway : s₂.Underway (s₁.Offers during) s₀.proxy k₀.portal i k₀.calls :=
    (Underway.ofExecute _ hsteady₀ hclient hexecute).run hsteady₁ hduringOwn honly
      (fun t ht => ⟨t, ht, rfl⟩) hduring
  refine ⟨hunderway.proceeds, ?_⟩
  obtain ⟨k₂, calls, hk₂, hcalls, hcourse, hkept⟩ := hunderway
  refine ⟨k₂, calls, hk₂, hcalls, hcourse, fun packet => hcourse.of_declines,
    fun route => hcourse.of_nothing, hcourse.eq_nil, ?_, ?_, ?_⟩
  · exact fun st parameters hst hstarted => hkept st hst (hsteady₂.started st parameters hstarted)
  · refine fun hanswer => ⟨fun x => hcourse.mem_closed hanswer, ?_⟩
    intro later s₃ hlater hlaterOwn st parameters hst
    have hopened : .statement st ∈ k₂.calls.opened := by
      rw [hcalls, Journal.opened_append]
      exact List.mem_append_right _ hst
    have hready : ∀ u ∈ k₂.stage.ready, u.statement ≠ st := by
      rw [Stage.ready_of_answer? hanswer]
      exact List.forall_mem_nil _
    have hleft : s₂.LeftBehind i st := ⟨⟨k₂, hk₂, hopened, hready⟩, hkept st hst⟩
    exact hleft.not_started hsteady₂ hlaterOwn hlater parameters
  · intro s₃ hsubmit
    obtain ⟨k, statement, ready, hk, hstage, hmore⟩ := handed_of_submit hsubmit
    obtain rfl : k₂ = k := Option.some.inj (hk₂.symm.trans hk)
    obtain ⟨route, hadmits, rfl, hprepares⟩ := hcourse.prepares hstage
    exact ⟨route, ready, hadmits, hprepares, hmore⟩

theorem execution_of_run_rejected :
    let source : Source := ⟨0, "a", .yielding (.update 1 0)⟩
    let rejecting : Source := ⟨1, "b", .rejecting ⟨1146, "42S02", "Table 'b.t' doesn't exist"⟩⟩
    let untouched : Source := ⟨2, "c", .yielding (.update 1 0)⟩
    let route : Route := ⟨.ofType .ddl, [⟨"a", "A"⟩, ⟨"b", "B"⟩, ⟨"c", "C"⟩]⟩
    let p : Proxy := { Proxy.ofRouting .default (.sharding fun _ _ => .ok route) 1 with
      sources := ⟨[source, rejecting, untouched]⟩, statements := (Registry.empty.register "SQL").2 }
    let during : List Move :=
      [.act 0 .connect, .adjust { p with mode := .xa }, .act 0 .prepare, .act 0 .connect, .act 0 .prepare]
    let packet : ErrPacket := ⟨1, 1146, "42S02",
      "Failed to prepare statement on `b`: [1146][42S02] Table 'b.t' doesn't exist"⟩
    let calls : List Call :=
      [.connected ⟨source, 0⟩, .prepared ⟨source, 1⟩ false "A", .connected ⟨rejecting, 2⟩,
        .rejected rejecting false "B", .statementClosed ⟨source, 1⟩, .connectionClosed ⟨source, 0⟩,
        .connectionClosed ⟨rejecting, 2⟩]
    ∃ s₀ s₁ s₂ k, (ofProxy p).run? [.enter 1 []] = some s₀ ∧
      s₀.step (.act 0 .execute) = some s₁ ∧ s₁.run? during = some s₂ ∧ s₂.clients[0]? = some k ∧
      k.stage.answer? = some [.err packet] ∧ k.calls = calls ∧
      ∀ later s₃, s₂.run? later = some s₃ → (∀ m ∈ later, m.isForeign = false) →
        ∀ parameters, .started ⟨source, 1⟩ parameters ∉ s₃.journal := by
  intro source rejecting untouched route p during packet calls
  have hrun : (((ofProxy p).run? [.enter 1 []]).bind fun s₀ => (s₀.clients[0]?).bind fun k₀ =>
      (s₀.step (.act 0 .execute)).bind fun s₁ => (s₁.run? during).bind fun s₂ =>
      s₂.clients[0]?.map fun k => (s₀, k₀, s₁, s₂, k)).any (fun r => r.2.1.calls = [] ∧
        r.2.2.2.2.stage.answer? = some [.err packet] ∧ r.2.2.2.2.calls = calls) = true := by
    decide +kernel
  obtain ⟨⟨s₀, k₀, s₁, s₂, k⟩, hr, hfacts⟩ := (Option.any_eq_true _ _).mp hrun
  obtain ⟨hnone, hanswer, hcalls⟩ := of_decide_eq_true hfacts
  have hnone : k₀.calls = [] := hnone
  have hanswer : k.stage.answer? = some [.err packet] := hanswer
  obtain ⟨s₀', h₀, hr⟩ := Option.bind_eq_some_iff.mp hr
  obtain ⟨k₀', hk₀, hr⟩ := Option.bind_eq_some_iff.mp hr
  obtain ⟨s₁', h₁, hr⟩ := Option.bind_eq_some_iff.mp hr
  obtain ⟨s₂', h₂, hr⟩ := Option.bind_eq_some_iff.mp hr
  obtain ⟨k', hk, hr⟩ := Option.map_eq_some_iff.mp hr
  cases hr
  have honly : ∀ a, .act 0 a ∈ during → a.isPreparation = true := by
    simp [during, Act.isPreparation]
  obtain ⟨-, k₂, new, hk₂, hnew, -, -, -, -, -, hend, -⟩ :=
    execution_of_run rfl h₀ hk₀ h₁ h₂ (by decide) honly
  obtain rfl : k = k₂ := Option.some.inj (hk.symm.trans hk₂)
  obtain rfl : calls = new := by
    rw [← hcalls, hnew, hnone]
    rfl
  obtain ⟨-, hnever⟩ := hend (by rw [hanswer]; rfl)
  refine ⟨s₀, s₁, s₂, k, h₀, h₁, h₂, hk, hanswer, hcalls, ?_⟩
  intro later s₃ hlater hown parameters
  exact hnever hlater hown ⟨source, 1⟩ parameters (by decide)

/-- A portal that is executed again, with rows of the execution before still open: its statement has been
forgotten, and declining it makes the calls that close what was open. -/
theorem calls_of_declined_again :
    let source : Source := ⟨0, "a", .yielding (.rows [] (.ofRows [[], []] none))⟩
    let p : Proxy :=
      { Proxy.ofRouting .default (.sharding fun _ _ => .ok ⟨.ofType .dql, [⟨"a", "SQL"⟩]⟩) 1 with
        sources := ⟨[source]⟩, statements := (Registry.empty.register "SQL").2 }
    let before : List Move :=
      [.enter 1 [], .act 0 .execute, .act 0 .connect, .act 0 .prepare, .act 0 .submit,
        .event (.enqueue (0, 0)), .event (.grant (0, 0)), .event (.finish (0, 0)), .event (.join (0, 0)),
        .event (.collect 0), .act 0 .finish, .act 0 .hasMore, .adjust (p.forget 1).2]
    ∃ s₀ s₁ k₀ k₁, (ofProxy p).run? before = some s₀ ∧ s₀.clients[0]? = some k₀ ∧
      s₀.proxy.statements.sql? k₀.portal.statementId = none ∧
      s₀.step (.act 0 .execute) = some s₁ ∧ s₁.clients[0]? = some k₁ ∧
      k₁.stage.answer? = some [.err ⟨1, 0, "HY000", "Unknown prepared statement id 1"⟩] ∧
      k₁.calls = k₀.calls ++ [.statementClosed ⟨source, 1⟩, .connectionClosed ⟨source, 0⟩] := by
  intro source p before
  have hrun : (((ofProxy p).run? before).bind fun s₀ => (s₀.clients[0]?).bind fun k₀ =>
      (s₀.step (.act 0 .execute)).bind fun s₁ => s₁.clients[0]?.map fun k₁ => (s₀, k₀, s₁, k₁)).any
      (fun r => r.1.proxy.statements.sql? r.2.1.portal.statementId = none ∧
        r.2.2.2.stage.answer? = some [.err ⟨1, 0, "HY000", "Unknown prepared statement id 1"⟩] ∧
        r.2.2.2.calls =
          r.2.1.calls ++ [.statementClosed ⟨source, 1⟩, .connectionClosed ⟨source, 0⟩]) = true := by
    decide +kernel
  obtain ⟨⟨s₀, k₀, s₁, k₁⟩, hr, hfacts⟩ := (Option.any_eq_true _ _).mp hrun
  obtain ⟨hforgotten, hanswer, hcalls⟩ := of_decide_eq_true hfacts
  obtain ⟨s₀', h₀, hr⟩ := Option.bind_eq_some_iff.mp hr
  obtain ⟨k₀', hk₀, hr⟩ := Option.bind_eq_some_iff.mp hr
  obtain ⟨s₁', h₁, hr⟩ := Option.bind_eq_some_iff.mp hr
  obtain ⟨k₁', hk₁, hr⟩ := Option.map_eq_some_iff.mp hr
  cases hr
  exact ⟨s₀, s₁, k₀, k₁, h₀, hk₀, hforgotten, h₁, hk₁, hanswer, hcalls⟩

end Service

end ShardProxy
