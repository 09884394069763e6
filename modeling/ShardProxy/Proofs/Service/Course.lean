import ShardProxy.Proofs.Service.Acts

/-!
# How far an execution has come

An execution first looks up its statement, routes it, and checks it against the transaction mode, in
this order; a statement that is routed nowhere is answered before it is checked. Then its units are
connected and prepared in the order of the route. The first that cannot be is the answer: nothing is
asked of the units behind it, and what was opened is closed.

    connected, prepared, …, connected, rejected, statements closed, connections closed

`Course` says where an execution stands after which calls. It begins so (`course_execute`), and each
act goes on with it (`Course.act`).
-/

namespace ShardProxy

/-! ## What calls open -/

namespace Resources

/-- The resources with what a call opens. -/
def add (r : Resources) : Call → Resources
  | .connected c => r.addConnection c
  | .prepared p _ _ => r.addStatement p
  | _ => r

/-- The resources with what calls open, one after the other. -/
def addAll (r : Resources) (calls : List Call) : Resources := calls.foldl add r

theorem addAll_append (r : Resources) (calls more : List Call) :
    r.addAll (calls ++ more) = (r.addAll calls).addAll more := List.foldl_append

theorem count_held_add (r : Resources) (call : Call) (x : Resource) :
    (r.add call).held.count x = r.held.count x + (Journal.opened [call]).count x := by
  cases call with
  | connected c => exact r.count_held_addConnection c x
  | prepared p => exact r.count_held_addStatement p x
  | refused | rejected | started | finished | dropped | statementClosed | connectionClosed => rfl

theorem count_held_addAll (r : Resources) (calls : List Call) (x : Resource) :
    (r.addAll calls).held.count x = r.held.count x + (Journal.opened calls).count x := by
  induction calls generalizing r with
  | nil => rfl
  | cons call calls ih =>
    have hopened : Journal.opened (call :: calls) = Journal.opened [call] ++ Journal.opened calls :=
      Journal.opened_append [call] calls
    rw [addAll, List.foldl_cons, ← addAll, ih, count_held_add, hopened, List.count_append]
    omega

/-- A release closes all that calls have opened. -/
theorem mem_closed_closing {r : Resources} {calls : List Call} {x : Resource}
    (hx : x ∈ Journal.opened calls) : x ∈ Journal.closed (r.addAll calls).closing := by
  have hpos := List.count_pos_iff.mpr hx
  have hcount := r.count_held_addAll calls x
  rw [closed_closing, ← List.count_pos_iff]
  omega

end Resources

/-! ## Admission -/

namespace Routing

/-- Where a text goes: under sharding to the units that the router splits it into, otherwise, once it is
judged, as it is to the data source for statements of its kind. -/
inductive Sends (sql : String) (values : List Value) : Routing → Route → Prop
  | split {router : String → List Value → Except ProxyError Route} {route : Route} :
      router sql values = .ok route → Sends sql values (.sharding router) route
  | placed {place : SqlType → String} {judge : String → Except ProxyError Statement}
      {statement : Statement} : judge sql = .ok statement →
        Sends sql values (.masterSlave place judge) ⟨statement, [⟨place statement.type, sql⟩]⟩

/-- Why a text goes nowhere: the router cannot split it, or it cannot be judged. -/
inductive Fails (sql : String) (values : List Value) : Routing → ProxyError → Prop
  | unrouted {router : String → List Value → Except ProxyError Route} {e : ProxyError} :
      router sql values = .error e → Fails sql values (.sharding router) e
  | misjudged {place : SqlType → String} {judge : String → Except ProxyError Statement}
      {e : ProxyError} : judge sql = .error e → Fails sql values (.masterSlave place judge) e

variable {r : Routing} {sql : String} {values : List Value}

theorem Sends.route_eq {route : Route} (h : r.Sends sql values route) :
    r.route sql values = .ok route := by
  cases h with
  | split hrouter => exact hrouter
  | placed hjudge =>
    rw [Routing.route, hjudge]
    rfl

theorem Fails.route_eq {e : ProxyError} (h : r.Fails sql values e) :
    r.route sql values = .error e := by
  cases h with
  | unrouted hrouter => exact hrouter
  | misjudged hjudge =>
    rw [Routing.route, hjudge]
    rfl

/-- A text goes somewhere, or there is a reason why not. -/
theorem sends_or_fails (r : Routing) (sql : String) (values : List Value) :
    (∃ route, r.Sends sql values route) ∨ ∃ e, r.Fails sql values e := by
  cases r with
  | sharding router =>
    cases hrouter : router sql values with
    | ok route => exact .inl ⟨route, .split hrouter⟩
    | error e => exact .inr ⟨e, .unrouted hrouter⟩
  | masterSlave place judge =>
    cases hjudge : judge sql with
    | ok statement => exact .inl ⟨_, .placed hjudge⟩
    | error e => exact .inr ⟨e, .misjudged hjudge⟩

end Routing

namespace Proxy

/-- The portal's statement is known and has a route. -/
def Routes (p : Proxy) (portal : Portal) (route : Route) : Prop :=
  ∃ sql, p.statements.sql? portal.statementId = some sql ∧ p.routing.Sends sql portal.values route

/-- Why a portal is not executed: its statement is unknown, or else it has no route, or else it has
units to run on and would change the schema under distributed transactions. -/
inductive Declines (p : Proxy) (portal : Portal) : ErrPacket → Prop
  | unknown : p.statements.sql? portal.statementId = none →
      Declines p portal
        ⟨1, 0, "HY000", "Unknown prepared statement id " ++ toString portal.statementId.toNat⟩
  | unrouted {sql : String} {e : ProxyError} :
      p.statements.sql? portal.statementId = some sql →
      p.routing.Fails sql portal.values e → Declines p portal (e.packet 1)
  | forbidden {route : Route} : p.Routes portal route → route.units ≠ [] →
      route.statement.type = .ddl → p.mode = .xa →
      Declines p portal ⟨1, 0, "HY000", "DDL command can't execute in XA transaction mode"⟩

/-- A portal is executed on the units of a route. -/
structure Admits (p : Proxy) (portal : Portal) (route : Route) : Prop where
  routes : p.Routes portal route
  units : route.units ≠ []
  permitted : ¬ (route.statement.type = .ddl ∧ p.mode = .xa)

/-- The plan of a statement that is known and has a route. -/
theorem Routes.plan_eq {p : Proxy} {portal : Portal} {route : Route} (h : p.Routes portal route) :
    ∃ sql, p.plan portal = if route.units = [] then .ok .nothing
      else (p.mode.check route.statement.type).map fun _ => .units sql route := by
  obtain ⟨sql, hsql, hsends⟩ := h
  refine ⟨sql, ?_⟩
  simp only [plan, hsql, hsends.route_eq, Route.isEmpty, List.isEmpty_iff]

theorem plan_of_nothing {p : Proxy} {portal : Portal} {route : Route} (h : p.Routes portal route)
    (hunits : route.units = []) : p.plan portal = .ok .nothing := by
  obtain ⟨sql, hplan⟩ := h.plan_eq
  rw [hplan, if_pos hunits]

theorem plan_of_admits {p : Proxy} {portal : Portal} {route : Route} (h : p.Admits portal route) :
    ∃ sql, p.plan portal = .ok (.units sql route) := by
  obtain ⟨sql, hplan⟩ := h.routes.plan_eq
  refine ⟨sql, ?_⟩
  rw [hplan, if_neg h.units, TransactionMode.check, if_neg h.permitted]
  rfl

theorem plan_of_declines {p : Proxy} {portal : Portal} {packet : ErrPacket}
    (h : p.Declines portal packet) : ∃ e, p.plan portal = .error e ∧ e.packet 1 = packet := by
  cases h with
  | unknown hsql => exact ⟨.unknownStatement portal.statementId, by simp only [plan, hsql], rfl⟩
  | @unrouted sql e hsql hfails =>
    exact ⟨e, by simp only [plan, hsql, hfails.route_eq], rfl⟩
  | forbidden hroutes hunits htype hmode =>
    obtain ⟨sql, hplan⟩ := hroutes.plan_eq
    refine ⟨.ddlUnderDistributedTransaction, ?_, rfl⟩
    rw [hplan, if_neg hunits, TransactionMode.check, if_pos ⟨htype, hmode⟩]
    rfl

/-- The plan of an execution is made in the order of these reasons. -/
theorem plan_cases (p : Proxy) (portal : Portal) :
    (∃ e, p.plan portal = .error e ∧ p.Declines portal (e.packet 1)) ∨
      (p.plan portal = .ok .nothing ∧ ∃ route, p.Routes portal route ∧ route.units = []) ∨
      ∃ sql route, p.plan portal = .ok (.units sql route) ∧ p.Admits portal route := by
  have hdeclined : ∀ packet, p.Declines portal packet →
      ∃ e, p.plan portal = .error e ∧ p.Declines portal (e.packet 1) := by
    intro packet h
    obtain ⟨e, hplan, rfl⟩ := plan_of_declines h
    exact ⟨e, hplan, h⟩
  cases hsql : p.statements.sql? portal.statementId with
  | none => exact .inl (hdeclined _ (.unknown hsql))
  | some sql =>
    rcases p.routing.sends_or_fails sql portal.values with ⟨route, hsends⟩ | ⟨e, hfails⟩
    · have hroutes : p.Routes portal route := ⟨sql, hsql, hsends⟩
      by_cases hunits : route.units = []
      · exact .inr (.inl ⟨plan_of_nothing hroutes hunits, route, hroutes, hunits⟩)
      · by_cases hforbidden : route.statement.type = .ddl ∧ p.mode = .xa
        · exact .inl (hdeclined _ (.forbidden hroutes hunits hforbidden.1 hforbidden.2))
        · have hadmits : p.Admits portal route := ⟨hroutes, hunits, hforbidden⟩
          obtain ⟨sql, hplan⟩ := plan_of_admits hadmits
          exact .inr (.inr ⟨sql, route, hplan, hadmits⟩)
    · exact .inl (hdeclined _ (.unrouted hsql hfails))

end Proxy

/-! ## Preparation -/

section Preparation

variable (seen : Sources → Prop)

/-- A unit has a connection, from one of the registries seen. -/
def Connects (unit : ExecutionUnit) (c : Connection) : Prop :=
  ∃ sources, seen sources ∧ sources.get? unit.dataSource = some c.source ∧
    c.source.script.refusal = none

/-- Units are prepared one after the other, each on a connection of its own. -/
inductive Prepares (statement : Statement) :
    List ExecutionUnit → List PreparedUnit → List Call → Prop
  | nil : Prepares statement [] [] []
  | unit {units : List ExecutionUnit} {ready : List PreparedUnit} {calls : List Call}
      {unit : ExecutionUnit} {c : Connection} {st : Prepared} :
      Prepares statement units ready calls → Connects seen unit c →
      c.source.script.rejection = none → st.source = c.source →
        Prepares statement (units ++ [unit]) (ready ++ [⟨unit.dataSource, st⟩])
          (calls ++ [.connected c, .prepared st statement.insert unit.sql])

/-- What is tried for a unit that cannot be prepared, and the packet that says why not. -/
inductive Refuses (statement : Statement) (unit : ExecutionUnit) : List Call → ErrPacket → Prop
  | unregistered {sources : Sources} : seen sources → sources.get? unit.dataSource = none →
      Refuses statement unit []
        ⟨1, 0, "HY000", "Backend `" ++ unit.dataSource ++
          "` unavailable: no connection source registered"⟩
  | refused {sources : Sources} {source : Source} {e : BackendError} : seen sources →
      sources.get? unit.dataSource = some source → source.script.refusal = some e →
      Refuses statement unit [.refused source]
        ⟨1, e.code, e.state, "Backend `" ++ unit.dataSource ++ "` refused the connection: " ++ e.line⟩
  | rejected {c : Connection} {e : BackendError} : Connects seen unit c →
      c.source.script.rejection = some e →
      Refuses statement unit [.connected c, .rejected c.source statement.insert unit.sql]
        ⟨1, e.code, e.state, "Failed to prepare statement on `" ++ unit.dataSource ++ "`: " ++ e.line⟩

/-- The answer of an execution, where it has one. -/
def Stage.answer? : Stage → Option Response
  | executed (.answered packets) => some packets
  | executed (.failed e) => some [.err (e.packet 1)]
  | _ => none

/-- A client is answered what its execution is answered. -/
theorem Stage.answer?_executed (e : Execution) : answer? (.executed e.progress) = e.answer? := by
  obtain ⟨progress, portal⟩ := e
  cases progress <;> rfl

/-- How far an execution has come that began on proxy `p` for a portal: where it stands, what is held
for it, and the calls that were made. -/
inductive Course (p : Proxy) (portal : Portal) : Stage → Resources → List Call → Prop
  | nothing {route : Route} {stage : Stage} : p.Routes portal route → route.units = [] →
      stage.answer? = some [.ok ⟨1, 0, 0, autocommit, 0, ""⟩] →
        Course p portal stage portal.stream.resources []
  | declined {packet : ErrPacket} {stage : Stage} : p.Declines portal packet →
      stage.answer? = some [.err packet] →
        Course p portal stage portal.stream.resources.release.2 portal.stream.resources.closing
  | preparing {route : Route} {done rest : List ExecutionUnit} {ready : List PreparedUnit}
      {calls : List Call} : p.Admits portal route → route.units = done ++ rest →
      Prepares seen route.statement done ready calls →
        Course p portal (.preparing route.statement ready rest)
          (portal.stream.resources.addAll calls) calls
  | connected {route : Route} {done rest : List ExecutionUnit} {unit : ExecutionUnit}
      {ready : List PreparedUnit} {calls : List Call} {c : Connection} : p.Admits portal route →
      route.units = done ++ unit :: rest → Prepares seen route.statement done ready calls →
      Connects seen unit c →
        Course p portal (.connected route.statement ready unit rest c)
          (portal.stream.resources.addAll (calls ++ [.connected c])) (calls ++ [.connected c])
  | failed {route : Route} {done rest : List ExecutionUnit} {unit : ExecutionUnit}
      {ready : List PreparedUnit} {calls tried : List Call} {packet : ErrPacket} {stage : Stage} :
      p.Admits portal route → route.units = done ++ unit :: rest →
      Prepares seen route.statement done ready calls →
      Refuses seen route.statement unit tried packet → stage.answer? = some [.err packet] →
        Course p portal stage (portal.stream.resources.addAll (calls ++ tried)).release.2
          (calls ++ tried ++ (portal.stream.resources.addAll (calls ++ tried)).closing)

end Preparation

/-! ## Steps -/

theorem ProxyError.packet_backendUnavailable (name : String) :
    (backendUnavailable name "no connection source registered").packet 1 =
      ⟨1, 0, "HY000", "Backend `" ++ name ++ "` unavailable: no connection source registered"⟩ := by
  have hmessage : (backendUnavailable name "no connection source registered").message =
      "Backend `" ++ name ++ "` unavailable: no connection source registered" :=
    String.append_assoc
  exact congrArg (ErrPacket.mk 1 0 "HY000") hmessage

variable {p : Proxy} {portal : Portal} {seen : Sources → Prop}

namespace Course

variable {stage : Stage} {held : Resources} {calls : List Call}

theorem of_preparing {statement : Statement} {ready : List PreparedUnit} {rest : List ExecutionUnit}
    (h : Course seen p portal stage held calls) (hstage : stage = .preparing statement ready rest) :
    ∃ route done, p.Admits portal route ∧ route.statement = statement ∧
      route.units = done ++ rest ∧ Prepares seen statement done ready calls ∧
      held = portal.stream.resources.addAll calls := by
  cases h with
  | preparing hadmits hunits hprepares =>
    cases hstage
    exact ⟨_, _, hadmits, rfl, hunits, hprepares, rfl⟩
  | connected => cases hstage
  | nothing _ _ hanswer | declined _ hanswer | failed _ _ _ _ hanswer =>
    rw [hstage] at hanswer
    cases hanswer

theorem of_connected {statement : Statement} {ready : List PreparedUnit} {unit : ExecutionUnit}
    {rest : List ExecutionUnit} {c : Connection} (h : Course seen p portal stage held calls)
    (hstage : stage = .connected statement ready unit rest c) :
    ∃ route done before, p.Admits portal route ∧ route.statement = statement ∧
      route.units = done ++ unit :: rest ∧ Prepares seen statement done ready before ∧
      Connects seen unit c ∧ calls = before ++ [.connected c] ∧
      held = portal.stream.resources.addAll calls := by
  cases h with
  | connected hadmits hunits hprepares hconnects =>
    cases hstage
    exact ⟨_, _, _, hadmits, rfl, hunits, hprepares, hconnects, rfl, rfl⟩
  | preparing => cases hstage
  | nothing _ _ hanswer | declined _ hanswer | failed _ _ _ _ hanswer =>
    rw [hstage] at hanswer
    cases hanswer

/-- What was opened for an execution that is answered before its submission is closed. -/
theorem mem_closed (h : Course seen p portal stage held calls) (hanswer : stage.answer?.isSome = true)
    {x : Resource} (hx : x ∈ Journal.opened calls) : x ∈ Journal.closed calls := by
  cases h with
  | nothing => cases hx
  | declined =>
    rw [Resources.opened_closing] at hx
    cases hx
  | preparing | connected => cases hanswer
  | failed =>
    rw [Journal.opened_append, Resources.opened_closing, List.append_nil] at hx
    rw [Journal.closed_append]
    exact List.mem_append_right _ (Resources.mem_closed_closing hx)

/-- Without units to run on, an execution is over, and all that it has done is to close what was held. -/
theorem plan_cases (h : Course seen p portal stage held calls) :
    (∃ e, p.plan portal = .error e ∧ stage.answer? = some [.err (e.packet 1)] ∧
      calls = portal.stream.resources.closing) ∨
    (p.plan portal = .ok .nothing ∧ stage.answer? = some [.ok ⟨1, 0, 0, autocommit, 0, ""⟩] ∧
      calls = []) ∨
    ∃ sql route, p.plan portal = .ok (.units sql route) := by
  cases h with
  | declined hdeclines hanswer =>
    obtain ⟨e, hplan, rfl⟩ := Proxy.plan_of_declines hdeclines
    exact .inl ⟨e, hplan, hanswer, rfl⟩
  | nothing hroutes hunits hanswer =>
    exact .inr (.inl ⟨Proxy.plan_of_nothing hroutes hunits, hanswer, rfl⟩)
  | preparing hadmits | connected hadmits | failed hadmits =>
    obtain ⟨sql, hplan⟩ := Proxy.plan_of_admits hadmits
    exact .inr (.inr ⟨sql, _, hplan⟩)

theorem of_declines {packet : ErrPacket} (h : Course seen p portal stage held calls)
    (hdeclines : p.Declines portal packet) :
    stage.answer? = some [.err packet] ∧ calls = portal.stream.resources.closing := by
  obtain ⟨e, hplan, rfl⟩ := Proxy.plan_of_declines hdeclines
  rcases h.plan_cases with ⟨e', hplan', hanswer, hcalls⟩ | ⟨hplan', -⟩ | ⟨sql, route, hplan'⟩
  · cases hplan.symm.trans hplan'
    exact ⟨hanswer, hcalls⟩
  · cases hplan.symm.trans hplan'
  · cases hplan.symm.trans hplan'

theorem of_nothing {route : Route} (h : Course seen p portal stage held calls)
    (hroutes : p.Routes portal route) (hunits : route.units = []) :
    stage.answer? = some [.ok ⟨1, 0, 0, autocommit, 0, ""⟩] ∧ calls = [] := by
  have hplan := Proxy.plan_of_nothing hroutes hunits
  rcases h.plan_cases with ⟨e, hplan', -⟩ | ⟨-, hdone⟩ | ⟨sql, route, hplan'⟩
  · cases hplan.symm.trans hplan'
  · exact hdone
  · cases hplan.symm.trans hplan'

/-- For a portal that holds nothing and is not admitted nothing is done. -/
theorem eq_nil (h : Course seen p portal stage held calls)
    (hholds : portal.stream.resources.isEmpty = true) (hnot : ∀ route, ¬ p.Admits portal route) :
    calls = [] := by
  cases h with
  | nothing => rfl
  | declined => exact Resources.closing_eq_nil hholds
  | preparing hadmits | connected hadmits | failed hadmits => exact absurd hadmits (hnot _)

/-- An execution whose units are all behind it has prepared them all. -/
theorem prepares {statement : Statement} {ready : List PreparedUnit}
    (h : Course seen p portal stage held calls) (hstage : stage = .preparing statement ready []) :
    ∃ route, p.Admits portal route ∧ route.statement = statement ∧
      Prepares seen statement route.units ready calls := by
  obtain ⟨route, done, hadmits, hstatement, hunits, hprepares, -⟩ := h.of_preparing hstage
  rw [List.append_nil] at hunits
  exact ⟨route, hadmits, hstatement, hunits ▸ hprepares⟩

end Course

theorem journal_fail (p : Proxy) (portal : Portal) (e : ProxyError) :
    (p.fail portal e).2.system.journal = p.system.journal ++ portal.stream.resources.closing :=
  congrArg (p.system.journal ++ ·) portal.stream.resources.release_fst

/-- An execution begins. -/
theorem course_execute (seen : Sources → Prop) (p : Proxy) (portal : Portal) :
    let x := Client.execute p portal
    ∃ calls, x.2.2.system.journal = p.system.journal ++ calls ∧
      Course seen p portal x.1 x.2.1.stream.resources calls := by
  intro x
  rcases p.plan_cases portal with ⟨e, hplan, hdeclines⟩ | ⟨hplan, route, hroutes, hunits⟩ |
    ⟨sql, route, hplan, hadmits⟩
  · have hx : x = Client.settled (p.fail portal e) := by simp only [x, Client.execute, hplan]
    rw [hx]
    exact ⟨_, journal_fail p portal e, .declined hdeclines rfl⟩
  · have hx : x = (.executed (.answered [.ok (.ofUpdate 1 0 0)]), portal, p) := by
      simp only [x, Client.execute, hplan]
    rw [hx]
    exact ⟨[], (List.append_nil _).symm, .nothing hroutes hunits rfl⟩
  · have hx : x = (.preparing route.statement [] route.units, portal, p) := by
      simp only [x, Client.execute, hplan]
    rw [hx]
    exact ⟨[], (List.append_nil _).symm, .preparing hadmits rfl .nil⟩

section Step

variable {p' : Proxy} {portal' : Portal} {statement : Statement} {ready : List PreparedUnit}
  {unit : ExecutionUnit} {rest : List ExecutionUnit} {calls : List Call}

/-- An execution that fails at a unit closes what was opened for it. -/
theorem Course.fail (p' : Proxy) (portal' : Portal) {route : Route} {done : List ExecutionUnit}
    {tried made new : List Call} {e : ProxyError} {o : Opened} (hadmits : p.Admits portal route)
    (hunits : route.units = done ++ unit :: rest)
    (hprepares : Prepares seen route.statement done ready calls)
    (hrefuses : Refuses seen route.statement unit tried (e.packet 1))
    (hmade : made ++ new = calls ++ tried)
    (hheld : o.resources = portal.stream.resources.addAll (made ++ new))
    (hjournal : o.journal = p'.system.journal ++ new) :
    let x := Client.settled ((p'.keep portal' o).2.fail (p'.keep portal' o).1 e)
    ∃ new, x.2.2.system.journal = p'.system.journal ++ new ∧
      Course seen p portal x.1 x.2.1.stream.resources (made ++ new) := by
  intro x
  refine ⟨new ++ o.resources.closing, ?_, ?_⟩
  · have hx : x.2.2.system.journal = o.journal ++ o.resources.closing := journal_fail _ _ e
    rw [hx, hjournal, List.append_assoc]
  · have hx : x.2.1.stream.resources = o.resources.release.2 := rfl
    rw [hx, ← List.append_assoc, hheld, hmade]
    exact .failed hadmits hunits hprepares hrefuses rfl

/-- An execution opens a connection for its next unit, or fails at this unit. -/
theorem course_connect
    (h : Course seen p portal (.preparing statement ready (unit :: rest)) portal'.stream.resources calls)
    (hseen : seen p'.sources) :
    let x := Client.connect p' portal' statement ready unit rest
    ∃ new, x.2.2.system.journal = p'.system.journal ++ new ∧
      Course seen p portal x.1 x.2.1.stream.resources (calls ++ new) := by
  intro x
  obtain ⟨route, done, hadmits, rfl, hunits, hprepares, hheld⟩ := h.of_preparing rfl
  have hkept : ∀ new, portal'.stream.resources.addAll new = portal.stream.resources.addAll (calls ++ new) :=
    fun new => by rw [hheld, ← Resources.addAll_append]
  rcases p'.sources.connect_cases (p'.opened portal') unit.dataSource with ⟨hget, hconnect⟩ |
    ⟨source, e, hget, hrefusal, hconnect⟩ | ⟨c, hget, hrefusal, -, hconnect⟩
  · have hrefuses : Refuses seen route.statement unit []
        ((ProxyError.backendUnavailable unit.dataSource "no connection source registered").packet 1) := by
      rw [ProxyError.packet_backendUnavailable]
      exact .unregistered hseen hget
    simp only [x, Client.connect_error hconnect]
    exact Course.fail p' portal' hadmits hunits hprepares hrefuses rfl (hkept []) (List.append_nil _).symm
  · simp only [x, Client.connect_error hconnect]
    exact Course.fail p' portal' hadmits hunits hprepares (.refused hseen hget hrefusal) rfl
      (hkept [.refused source]) rfl
  · simp only [x, Client.connect_ok hconnect]
    refine ⟨[.connected c], rfl, ?_⟩
    have hheld' : portal'.stream.resources.addConnection c = _ := hkept [.connected c]
    show Course seen p portal _ (portal'.stream.resources.addConnection c) _
    rw [hheld']
    exact .connected hadmits hunits hprepares ⟨p'.sources, hseen, hget, hrefusal⟩

/-- An execution prepares its next unit on the connection it has, or fails at this unit. -/
theorem course_prepare {c : Connection}
    (h : Course seen p portal (.connected statement ready unit rest c) portal'.stream.resources calls) :
    let x := Client.prepare p' portal' statement ready unit rest c
    ∃ new, x.2.2.system.journal = p'.system.journal ++ new ∧
      Course seen p portal x.1 x.2.1.stream.resources (calls ++ new) := by
  intro x
  obtain ⟨route, done, before, hadmits, rfl, hunits, hprepares, hconnects, rfl, hheld⟩ :=
    h.of_connected rfl
  have hkept : ∀ new, portal'.stream.resources.addAll new =
      portal.stream.resources.addAll (before ++ [.connected c] ++ new) :=
    fun new => by rw [hheld, ← Resources.addAll_append]
  rcases (p'.opened portal').prepare_cases c unit route.statement with ⟨e, hrejection, hprepare⟩ |
    ⟨st, hrejection, hsource, -, hprepare⟩
  · simp only [x, Client.prepare_error hprepare]
    exact Course.fail p' portal' hadmits hunits hprepares (.rejected hconnects hrejection)
      (List.append_assoc ..) (hkept [.rejected c.source route.statement.insert unit.sql]) rfl
  · simp only [x, Client.prepare_ok hprepare]
    let prepared : Call := .prepared st route.statement.insert unit.sql
    refine ⟨[prepared], rfl, ?_⟩
    have hheld' : portal'.stream.resources.addStatement st = _ := hkept [prepared]
    show Course seen p portal _ (portal'.stream.resources.addStatement st) _
    rw [hheld', List.append_assoc]
    exact .preparing hadmits (by rw [hunits, List.append_assoc]; rfl)
      (.unit hprepares hconnects hrejection hsource)

end Step

/-! ## Acts -/

/-- Whether an act opens a connection for a unit or prepares one. -/
def Act.isPreparation : Act → Bool
  | connect | prepare => true
  | execute | submit | finish | giveUp | hasMore | nextPacket | drop => false

section Act

variable {k : Client} {p' : Proxy} {a : Act} {x : Stage × Portal × Proxy} {calls : List Call}

/-- An execution goes on. -/
theorem Course.act (h : Course seen p portal k.stage k.portal.stream.resources calls)
    (hx : k.act p' a = some x) (ha : a.isPreparation = true) (hseen : seen p'.sources) :
    ∃ new, x.2.2.system.journal = p'.system.journal ++ new ∧
      Course seen p portal x.1 x.2.1.stream.resources (calls ++ new) := by
  cases a with
  | connect =>
    obtain ⟨statement, ready, unit, units, hstage, rfl⟩ := Client.act_connect hx
    rw [hstage] at h
    exact course_connect h hseen
  | prepare =>
    obtain ⟨statement, ready, unit, units, c, hstage, rfl⟩ := Client.act_prepare hx
    rw [hstage] at h
    exact course_prepare h
  | execute | submit | finish | giveUp | hasMore | nextPacket | drop => cases ha

end Act

end ShardProxy
