import ShardProxy.Proofs.Resources
import ShardProxy.Proxy.Portal

/-!
# A proxy and its clients

Clients work on portals of one proxy at the same time. A client makes one call after the other; an
execution is made of acts, one for each time that it waits for a backend or for the executor, and may
be given up between any two of them. Between the acts of a client the other clients act, the executor
goes on, and the settings of the proxy change.

    execute; connect; prepare; connect; prepare; submit;  (the executor works)  finish
-/

namespace ShardProxy

/-! ## Clients -/

/-- Where a client stands: inside of an execution, or behind its last call. -/
inductive Stage
  /-- Nothing was called yet, or the last execution was given up. -/
  | idle
  /-- An execution has prepared some units and is to prepare others. -/
  | preparing (statement : Statement) (ready : List PreparedUnit) (units : List ExecutionUnit)
  /-- An execution has a connection for one more unit. -/
  | connected (statement : Statement) (ready : List PreparedUnit) (unit : ExecutionUnit)
      (units : List ExecutionUnit) (connection : Connection)
  /-- An execution is over, or at the executor. -/
  | executed (progress : Progress)
  | moved (outcome : Except ProxyError Bool)
  | fetched (packet : Packet)
  | dropped

/-- Whether a client can make a call. -/
def Stage.isFree : Stage → Bool
  | idle | executed (.answered _) | executed (.failed _) | moved _ | fetched _ => true
  | preparing .. | connected .. | executed (.running ..) | dropped => false

/-- A client with its portal, and the connections and statements that were opened and closed for it. -/
structure Client where
  portal : Portal
  stage : Stage
  calls : Journal

/-- What a client does. -/
inductive Act
  /-- It begins an execution. -/
  | execute
  /-- Its execution opens a connection for the next unit. -/
  | connect
  /-- Its execution prepares the unit that it has a connection for. -/
  | prepare
  /-- Its execution hands the prepared units to the executor. -/
  | submit
  /-- Its execution takes what the executor returned. -/
  | finish
  /-- It gives its execution up. -/
  | giveUp
  | hasMore
  | nextPacket
  | drop

namespace Client

/-- A client that has done nothing yet. -/
def ofPortal (portal : Portal) : Client := ⟨portal, .idle, []⟩

/-- Where an execution that is over or at the executor leaves its client. -/
def settled (x : Execution × Proxy) : Stage × Portal × Proxy := (.executed x.1.progress, x.1.portal, x.2)

/-- An execution begins: what it needs is looked up. -/
def execute (p : Proxy) (portal : Portal) : Stage × Portal × Proxy :=
  match p.plan portal with
  | .error e => settled (p.fail portal e)
  | .ok .nothing => (.executed (.answered [.ok (.ofUpdate 1 0 0)]), portal, p)
  | .ok (.units _ route) => (.preparing route.statement [] route.units, portal, p)

/-- An execution opens a connection for a unit. -/
def connect (p : Proxy) (portal : Portal) (statement : Statement) (ready : List PreparedUnit)
    (unit : ExecutionUnit) (units : List ExecutionUnit) : Stage × Portal × Proxy :=
  let (connection, opened) := p.sources.connect (p.opened portal) unit.dataSource
  let (portal, p) := p.keep portal opened
  match connection with
  | .error e => settled (p.fail portal e)
  | .ok connection => (.connected statement ready unit units connection, portal, p)

/-- An execution prepares a unit on its connection. -/
def prepare (p : Proxy) (portal : Portal) (statement : Statement) (ready : List PreparedUnit)
    (unit : ExecutionUnit) (units : List ExecutionUnit) (connection : Connection) :
    Stage × Portal × Proxy :=
  let (prepared, opened) := (p.opened portal).prepare connection unit statement
  let (portal, p) := p.keep portal opened
  match prepared with
  | .error e => settled (p.fail portal e)
  | .ok u => (.preparing statement (ready ++ [u]) units, portal, p)

/-- What an act leads to, if the client can do it. -/
def act (k : Client) (p : Proxy) (a : Act) : Option (Stage × Portal × Proxy) :=
  match a, k.stage with
  | .connect, .preparing statement ready (unit :: units) =>
    some (connect p k.portal statement ready unit units)
  | .prepare, .connected statement ready unit units connection =>
    some (prepare p k.portal statement ready unit units connection)
  | .submit, .preparing statement ready [] => some (settled (p.submit k.portal statement ready))
  | .finish, .executed (.running command statement) =>
    (p.returned? command).map fun answer => settled (p.finish k.portal statement answer)
  | .giveUp, .preparing .. | .giveUp, .connected .. => some (.idle, k.portal, p)
  | .giveUp, .executed (.running command _) =>
    some (.idle, k.portal, { p with system := p.system.apply (.abandon command) })
  | .execute, stage => if stage.isFree then some (execute p k.portal) else none
  | .hasMore, stage =>
    if stage.isFree then
      let (outcome, portal, p) := p.hasMore k.portal
      some (.moved outcome, portal, p)
    else none
  | .nextPacket, stage =>
    if stage.isFree then
      let (packet, portal) := k.portal.nextPacket
      some (.fetched packet, portal, p)
    else none
  | .drop, stage =>
    if stage.isFree then
      some (.dropped, { k.portal with stream := k.portal.stream.close.2 }, p.drop k.portal)
    else none
  | _, _ => none

/-- Whether a client's last call says that nothing is open any more: the rows are at their end or
failed, the execution failed, or the portal was dropped. -/
def isDone (k : Client) : Bool :=
  match k.stage with
  | .dropped | .executed (.failed _) | .moved (.ok false) | .moved (.error _) => true
  | .moved (.ok true) =>
    match k.portal.stream.state with
    | .exhausted => true
    | _ => false
  | _ => false

end Client

/-! ## The service -/

/-- A proxy and the clients that it ever had. -/
structure Service where
  proxy : Proxy
  clients : List Client

/-- What can happen next. -/
inductive Move
  /-- A client comes, with a prepared statement and parameters. -/
  | enter (statementId : UInt32) (parameters : List Parameter)
  | act (client : Nat) (a : Act)
  /-- The executor goes on. -/
  | event (e : Event)
  /-- The data sources, the statements, the routing or the settings become those of `p`. -/
  | adjust (p : Proxy)

namespace Service

/-- A proxy without clients. -/
def ofProxy (p : Proxy) : Service := ⟨p, []⟩

def journal (s : Service) : Journal := s.proxy.system.journal

/-- The service after an act of client `i`. What the act adds to the journal was done for the client. -/
def acted (s : Service) (i : Nat) (k : Client) (x : Stage × Portal × Proxy) : Service :=
  ⟨x.2.2, s.clients.set i ⟨x.2.1, x.1, k.calls ++ x.2.2.system.journal.drop s.journal.length⟩⟩

/-- The service after a move, if the move can be made. -/
def step (s : Service) : Move → Option Service
  | .enter statementId parameters =>
    some { s with clients := s.clients ++ [.ofPortal (.ofStatement statementId parameters)] }
  | .act i a => do
    let k ← s.clients[i]?
    (k.act s.proxy a).map (s.acted i k)
  | .event e => (s.proxy.system.step e).map fun system => { s with proxy := { s.proxy with system } }
  | .adjust p => some { s with proxy := { p with system := s.proxy.system } }

/-- The service after moves made one after the other. -/
def run? (s : Service) : List Move → Option Service
  | [] => some s
  | m :: moves => (s.step m).bind (·.run? moves)

theorem run?_append (s : Service) (moves more : List Move) :
    s.run? (moves ++ more) = (s.run? moves).bind (·.run? more) := by
  induction moves generalizing s with
  | nil => rfl
  | cons m moves ih =>
    rw [List.cons_append, run?, run?]
    cases s.step m with
    | none => rfl
    | some s₁ => exact ih s₁

/-- A state that a run of moves comes through. -/
inductive Visits : Service → List Move → Service → Prop
  | here (s : Service) (moves : List Move) : Visits s moves s
  | there {s s' t : Service} {m : Move} {moves : List Move} :
      s.step m = some s' → Visits s' moves t → Visits s (m :: moves) t

/-- A move that a run makes, in the state that it makes it in. -/
inductive Takes : Service → List Move → Service → Move → Prop
  | first (s : Service) (m : Move) (moves : List Move) : Takes s (m :: moves) s m
  | later {s s' t : Service} {m m' : Move} {moves : List Move} :
      s.step m = some s' → Takes s' moves t m' → Takes s (m :: moves) t m'

namespace Takes

variable {s t : Service} {m : Move} {moves : List Move}

theorem visits (h : s.Takes moves t m) : s.Visits moves t := by
  induction h with
  | first s m moves => exact .here s _
  | later hs _ ih => exact .there hs ih

theorem mem (h : s.Takes moves t m) : m ∈ moves := by
  induction h with
  | first s m moves => exact List.mem_cons_self
  | later _ _ ih => exact List.mem_cons_of_mem _ ih

end Takes

/-- What each move keeps, in the state that the run makes it in, is kept by the run. -/
theorem keeps_run_of_takes {J : Service → Prop} {s s' : Service} {moves : List Move}
    (hstep : ∀ {t t' : Service} {m : Move}, s.Takes moves t m → J t → t.step m = some t' → J t')
    (hs : J s) (h : s.run? moves = some s') : J s' := by
  induction moves generalizing s with
  | nil =>
    cases h
    exact hs
  | cons m moves ih =>
    obtain ⟨s₁, hm, hrest⟩ := Option.bind_eq_some_iff.mp h
    exact ih (fun htakes => hstep (.later hm htakes)) (hstep (.first s m moves) hs hm) hrest

/-- What each move of a run keeps, in the states that the run comes through, is kept by the run. -/
theorem keeps_run_of_visits {J : Service → Prop} {s s' : Service} {moves : List Move}
    (hstep : ∀ {t t' : Service} {m : Move},
      s.Visits moves t → m ∈ moves → J t → t.step m = some t' → J t')
    (hs : J s) (h : s.run? moves = some s') : J s' :=
  keeps_run_of_takes (fun htakes => hstep htakes.visits htakes.mem) hs h

/-- What every move keeps is kept by runs. -/
theorem keeps_run {J : Service → Prop}
    (hstep : ∀ {s s' : Service} {m : Move}, J s → s.step m = some s' → J s') {s s' : Service}
    {moves : List Move} (hs : J s) (h : s.run? moves = some s') : J s' :=
  keeps_run_of_visits (fun _ _ => hstep) hs h

theorem step_act {s : Service} {i : Nat} {k : Client} (hk : s.clients[i]? = some k) {a : Act}
    {x : Stage × Portal × Proxy} (hx : k.act s.proxy a = some x) :
    s.step (.act i a) = some (s.acted i k x) := by
  simp [Service.step, hk, hx]

theorem act_inv {s s' : Service} {i : Nat} {a : Act} (h : s.step (.act i a) = some s') :
    ∃ k x, s.clients[i]? = some k ∧ k.act s.proxy a = some x ∧ s' = s.acted i k x := by
  obtain ⟨k, hk, h⟩ := Option.bind_eq_some_iff.mp h
  obtain ⟨x, hx, rfl⟩ := Option.map_eq_some_iff.mp h
  exact ⟨k, x, hk, hx, rfl⟩

/-- What an act adds to the journal. -/
theorem drop_journal {s : Service} {x : Stage × Portal × Proxy} {calls : List Call}
    (h : x.2.2.system.journal = s.journal ++ calls) :
    x.2.2.system.journal.drop s.journal.length = calls := by
  rw [h]
  exact List.drop_left

theorem getElem?_acted {s : Service} {i : Nat} {k : Client} (hk : s.clients[i]? = some k)
    (x : Stage × Portal × Proxy) :
    (s.acted i k x).clients[i]? =
      some ⟨x.2.1, x.1, k.calls ++ x.2.2.system.journal.drop s.journal.length⟩ :=
  List.getElem?_set_self (List.getElem?_eq_some_iff.mp hk).1

theorem getElem?_acted_of_ne {s : Service} {i j : Nat} (h : i ≠ j) (k : Client)
    (x : Stage × Portal × Proxy) :
    (s.acted i k x).clients[j]? = s.clients[j]? :=
  List.getElem?_set_ne h

/-- A client stays as it is, but for its own acts. -/
theorem client_of_step {s s' : Service} {m : Move} {i : Nat} {k : Client} (h : s.step m = some s')
    (hk : s.clients[i]? = some k) :
    s'.clients[i]? = some k ∨
      ∃ a x, m = .act i a ∧ k.act s.proxy a = some x ∧ s' = s.acted i k x := by
  cases m with
  | enter =>
    cases h
    exact .inl ((List.getElem?_append_left (List.getElem?_eq_some_iff.mp hk).1).trans hk)
  | adjust =>
    cases h
    exact .inl hk
  | event e =>
    obtain ⟨system, -, rfl⟩ := Option.map_eq_some_iff.mp h
    exact .inl hk
  | act j a =>
    obtain ⟨k', x, hk', hx, rfl⟩ := act_inv h
    by_cases hj : j = i
    · subst hj
      obtain rfl : k = k' := Option.some.inj (hk.symm.trans hk')
      exact .inr ⟨a, x, rfl, hx, rfl⟩
    · exact .inl ((getElem?_acted_of_ne hj k' x).trans hk)

end Service

end ShardProxy
