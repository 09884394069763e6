import ShardProxy.Sources

/-!
# What is opened is closed

The calls that open and close a command's resources are its ledger. Connections and statements come
into the resources one by one, as they are opened, and leave them all at once: a release closes the
statements in the order in which they were prepared, then the connections in the order in which they
were opened, and leaves nothing. Whatever was opened is therefore closed as often as it was opened, or
is still there (`Ledger.count_closed`).

    Ledger r calls r'   →   closed x + held by r' = opened x + held by r
-/

namespace ShardProxy

/-- Something that is opened and closed. -/
inductive Resource
  | connection (c : Connection)
  | statement (p : Prepared)
deriving DecidableEq

def Resource.serial : Resource → Nat
  | connection c => c.serial
  | statement p => p.serial

namespace Call

/-- What a call opened. -/
def opened? : Call → Option Resource
  | connected c => some (.connection c)
  | prepared p _ _ => some (.statement p)
  | _ => none

/-- What a call closed. -/
def closed? : Call → Option Resource
  | connectionClosed c => some (.connection c)
  | statementClosed p => some (.statement p)
  | _ => none

/-- Whether a call is about an execution. -/
def isExecution : Call → Bool
  | started .. | finished _ | dropped _ => true
  | _ => false

theorem opened?_of_isExecution {call : Call} (h : call.isExecution = true) : call.opened? = none := by
  cases call <;> first | rfl | cases h

theorem closed?_of_isExecution {call : Call} (h : call.isExecution = true) : call.closed? = none := by
  cases call <;> first | rfl | cases h

end Call

namespace Journal

/-- Everything that was opened, in order. -/
def opened (j : Journal) : List Resource := j.filterMap Call.opened?

/-- Everything that was closed, in order. -/
def closed (j : Journal) : List Resource := j.filterMap Call.closed?

theorem opened_append (j calls : Journal) : opened (j ++ calls) = j.opened ++ calls.opened :=
  List.filterMap_append

theorem closed_append (j calls : Journal) : closed (j ++ calls) = j.closed ++ calls.closed :=
  List.filterMap_append

end Journal

namespace Resources

/-- Everything that is open, in the order in which it is to be closed. -/
def held (r : Resources) : List Resource :=
  r.statements.map .statement ++ r.connections.map .connection

theorem held_eq_nil {r : Resources} (h : r.isEmpty = true) : r.held = [] := by
  simp only [isEmpty, Bool.and_eq_true, List.isEmpty_iff] at h
  rw [held, h.1, h.2]
  rfl

theorem closing_eq_nil {r : Resources} (h : r.isEmpty = true) : r.closing = [] := by
  rw [← r.release_fst, release, if_pos h]

theorem closed_closing (r : Resources) : Journal.closed r.closing = r.held := by
  simp [Journal.closed, closing, held, Call.closed?, Function.comp_def]

theorem opened?_of_mem_closing {r : Resources} {call : Call} (h : call ∈ r.closing) :
    call.opened? = none := by
  rcases List.mem_append.mp h with h | h
  · obtain ⟨p, -, rfl⟩ := List.mem_map.mp h
    rfl
  · obtain ⟨c, -, rfl⟩ := List.mem_map.mp h
    rfl

theorem opened_closing (r : Resources) : Journal.opened r.closing = [] :=
  List.filterMap_eq_nil_iff.mpr fun _ => opened?_of_mem_closing

theorem count_held_addConnection (r : Resources) (c : Connection) (x : Resource) :
    (r.addConnection c).held.count x = r.held.count x + [Resource.connection c].count x := by
  simp only [held, addConnection, List.map_append, List.map_cons, List.map_nil, List.count_append]
  omega

theorem count_held_addStatement (r : Resources) (p : Prepared) (x : Resource) :
    (r.addStatement p).held.count x = r.held.count x + [Resource.statement p].count x := by
  simp only [held, addStatement, List.map_append, List.map_cons, List.map_nil, List.count_append]
  omega

end Resources

/-! ## The ledger -/

/-- Calls that lead from resources `r` to `r'`. Nothing is closed but by a release, which closes all
that is open, the statements first and each kind in the order of opening. -/
inductive Ledger : Resources → List Call → Resources → Prop
  | rest (r : Resources) : Ledger r [] r
  | refused {r r' : Resources} {calls : List Call} (s : Source) :
      Ledger r calls r' → Ledger r (.refused s :: calls) r'
  | rejected {r r' : Resources} {calls : List Call} (s : Source) (keys : Bool) (sql : String) :
      Ledger r calls r' → Ledger r (.rejected s keys sql :: calls) r'
  | connected {r r' : Resources} {calls : List Call} (c : Connection) :
      Ledger (r.addConnection c) calls r' → Ledger r (.connected c :: calls) r'
  | prepared {r r' : Resources} {calls : List Call} (p : Prepared) (keys : Bool) (sql : String) :
      Ledger (r.addStatement p) calls r' → Ledger r (.prepared p keys sql :: calls) r'
  | released {r r' : Resources} {calls : List Call} :
      Ledger r.release.2 calls r' → Ledger r (r.closing ++ calls) r'

namespace Ledger

variable {r r' r'' : Resources} {calls more : List Call}

theorem append (h : Ledger r calls r') (h' : Ledger r' more r'') :
    Ledger r (calls ++ more) r'' := by
  induction h with
  | rest r => exact h'
  | refused s _ ih => exact .refused s (ih h')
  | rejected s keys sql _ ih => exact .rejected s keys sql (ih h')
  | connected c _ ih => exact .connected c (ih h')
  | prepared p keys sql _ ih => exact .prepared p keys sql (ih h')
  | released _ ih =>
    rw [List.append_assoc]
    exact .released (ih h')

theorem release (r : Resources) : Ledger r r.closing r.release.2 := by
  have h : Ledger r (r.closing ++ []) r.release.2 := .released (.rest _)
  rwa [List.append_nil] at h

/-- Whatever is opened is closed as often as it was opened, except that it may be open still. -/
theorem count_closed (h : Ledger r calls r') (x : Resource) :
    (Journal.closed calls).count x + r'.held.count x =
      (Journal.opened calls).count x + r.held.count x := by
  induction h with
  | rest r => rfl
  | refused s _ ih | rejected s keys sql _ ih => exact ih
  | @connected r _ calls c _ ih =>
    have hopened : Journal.opened (.connected c :: calls) = .connection c :: Journal.opened calls := rfl
    have hclosed : Journal.closed (.connected c :: calls) = Journal.closed calls := rfl
    rw [Resources.count_held_addConnection] at ih
    rw [hopened, hclosed, ← List.singleton_append, List.count_append]
    omega
  | @prepared r _ calls p keys sql _ ih =>
    have hopened : Journal.opened (.prepared p keys sql :: calls) =
        .statement p :: Journal.opened calls := rfl
    have hclosed : Journal.closed (.prepared p keys sql :: calls) = Journal.closed calls := rfl
    rw [Resources.count_held_addStatement] at ih
    rw [hopened, hclosed, ← List.singleton_append, List.count_append]
    omega
  | @released r _ calls _ ih =>
    have hnone : r.release.2.held = [] := Resources.held_eq_nil r.isEmpty_release
    rw [hnone, List.count_nil] at ih
    rw [Journal.closed_append, Journal.opened_append, r.closed_closing, r.opened_closing,
      List.count_append, List.nil_append]
    omega

end Ledger

/-! ## Numbers -/

/-- Calls that come at place `n` of a journal and after. What they open has the number of its place. -/
def Numbered : Nat → List Call → Prop
  | _, [] => True
  | n, call :: calls => (∀ x ∈ call.opened?, x.serial = n) ∧ Numbered (n + 1) calls

namespace Numbered

theorem of_opened? {n : Nat} {calls : List Call} (h : ∀ call ∈ calls, call.opened? = none) :
    Numbered n calls := by
  induction calls generalizing n with
  | nil => trivial
  | cons call calls ih =>
    obtain ⟨hcall, hcalls⟩ := List.forall_mem_cons.mp h
    exact ⟨by simp [hcall], ih hcalls⟩

theorem append {n : Nat} {calls more : List Call} (h : Numbered n calls)
    (h' : Numbered (n + calls.length) more) : Numbered n (calls ++ more) := by
  induction calls generalizing n with
  | nil => exact h'
  | cons call calls ih =>
    obtain ⟨hcall, hcalls⟩ := h
    refine ⟨hcall, ih hcalls ?_⟩
    rwa [List.length_cons, Nat.add_comm calls.length, ← Nat.add_assoc] at h'

theorem le_serial {n : Nat} {calls : List Call} (h : Numbered n calls) {x : Resource}
    (hx : x ∈ Journal.opened calls) : n ≤ x.serial := by
  induction calls generalizing n with
  | nil => cases hx
  | cons call calls ih =>
    obtain ⟨hcall, hcalls⟩ := h
    obtain ⟨call', hmem, hx'⟩ := List.mem_filterMap.mp hx
    rcases List.mem_cons.mp hmem with rfl | hmem
    · exact Nat.le_of_eq (hcall x hx').symm
    · have := ih hcalls (List.mem_filterMap.mpr ⟨call', hmem, hx'⟩)
      omega

/-- Nothing is opened twice. -/
theorem nodup_opened {n : Nat} {calls : List Call} (h : Numbered n calls) :
    (Journal.opened calls).Nodup := by
  induction calls generalizing n with
  | nil => exact List.nodup_nil
  | cons call calls ih =>
    obtain ⟨hcall, hcalls⟩ := h
    cases hopened : call.opened? with
    | none =>
      rw [Journal.opened, List.filterMap_cons_none hopened]
      exact ih hcalls
    | some x =>
      rw [Journal.opened, List.filterMap_cons_some hopened, List.nodup_cons]
      refine ⟨?_, ih hcalls⟩
      -- what comes after has a greater number
      intro hmem
      have hserial := hcall x hopened
      have := hcalls.le_serial hmem
      omega

end Numbered

/-! ## Opening -/

/-- What asking for a connection can come to. -/
theorem Sources.connect_cases (s : Sources) (o : Opened) (name : String) :
    (s.get? name = none ∧ s.connect o name =
        (.error (.backendUnavailable name "no connection source registered"), o)) ∨
      (∃ source e, s.get? name = some source ∧ source.script.refusal = some e ∧ s.connect o name =
        (.error (.connectionRefused name e), ⟨o.resources, o.journal ++ [.refused source]⟩)) ∨
      ∃ c, s.get? name = some c.source ∧ c.source.script.refusal = none ∧
        c.serial = o.journal.length ∧ s.connect o name =
          (.ok c, ⟨o.resources.addConnection c, o.journal ++ [.connected c]⟩) := by
  unfold Sources.connect Journal.connect
  cases hget : s.get? name with
  | none => exact .inl ⟨rfl, rfl⟩
  | some source =>
    dsimp only
    cases hrefusal : source.script.refusal with
    | some e => exact .inr (.inl ⟨source, e, rfl, hrefusal, rfl⟩)
    | none => exact .inr (.inr ⟨⟨source, o.journal.length⟩, rfl, hrefusal, rfl, rfl⟩)

/-- What preparing a unit can come to. -/
theorem Opened.prepare_cases (o : Opened) (c : Connection) (unit : ExecutionUnit)
    (statement : Statement) :
    (∃ e, c.source.script.rejection = some e ∧ o.prepare c unit statement =
        (.error (.prepareFailed unit.dataSource e),
          ⟨o.resources, o.journal ++ [.rejected c.source statement.insert unit.sql]⟩)) ∨
      ∃ st, c.source.script.rejection = none ∧ st.source = c.source ∧ st.serial = o.journal.length ∧
        o.prepare c unit statement = (.ok ⟨unit.dataSource, st⟩,
          ⟨o.resources.addStatement st, o.journal ++ [.prepared st statement.insert unit.sql]⟩) := by
  unfold Opened.prepare Journal.prepare
  cases hrejection : c.source.script.rejection with
  | some e => exact .inl ⟨e, rfl, rfl⟩
  | none => exact .inr ⟨⟨c.source, o.journal.length⟩, rfl, rfl, rfl, rfl⟩

/-- Calls that lead from what is open to what is open then. -/
structure Opened.Leads (o : Opened) (calls : List Call) (o' : Opened) : Prop where
  journal : o'.journal = o.journal ++ calls
  numbered : Numbered o.journal.length calls
  ledger : Ledger o.resources calls o'.resources

namespace Opened

variable {o o' o'' : Opened} {calls more : List Call}

theorem Leads.refl (o : Opened) : o.Leads [] o := ⟨(List.append_nil _).symm, trivial, .rest _⟩

theorem Leads.trans (h : o.Leads calls o') (h' : o'.Leads more o'') :
    o.Leads (calls ++ more) o'' := by
  refine ⟨?_, ?_, h.ledger.append h'.ledger⟩
  · rw [h'.journal, h.journal, List.append_assoc]
  · apply h.numbered.append
    have hnumbered := h'.numbered
    rwa [h.journal, List.length_append] at hnumbered

theorem leads_release (r : Resources) (j : Journal) :
    Leads ⟨r, j⟩ r.release.1 ⟨r.release.2, j ++ r.release.1⟩ := by
  rw [r.release_fst]
  exact ⟨rfl, .of_opened? fun _ => Resources.opened?_of_mem_closing, .release r⟩

theorem leads_connect (s : Sources) (o : Opened) (name : String) :
    ∃ calls, o.Leads calls (s.connect o name).2 := by
  rcases s.connect_cases o name with ⟨-, h⟩ | ⟨source, e, -, -, h⟩ | ⟨c, -, -, hserial, h⟩ <;> rw [h]
  · exact ⟨[], .refl o⟩
  · exact ⟨[.refused source], rfl, by simp [Numbered, Call.opened?], .refused _ (.rest _)⟩
  · exact ⟨[.connected c], rfl, by simp [Numbered, Call.opened?, Resource.serial, hserial],
      .connected _ (.rest _)⟩

theorem leads_prepare (o : Opened) (connection : Connection) (unit : ExecutionUnit)
    (statement : Statement) : ∃ calls, o.Leads calls (o.prepare connection unit statement).2 := by
  rcases o.prepare_cases connection unit statement with ⟨e, -, h⟩ | ⟨st, -, -, hserial, h⟩ <;> rw [h]
  · exact ⟨[.rejected _ _ _], rfl, by simp [Numbered, Call.opened?], .rejected _ _ _ (.rest _)⟩
  · exact ⟨[.prepared st _ _], rfl, by simp [Numbered, Call.opened?, Resource.serial, hserial],
      .prepared _ _ _ (.rest _)⟩

/-- A unit that is prepared has a statement that was just opened. -/
theorem journal_of_prepare {connection : Connection} {unit : ExecutionUnit} {statement : Statement}
    {u : PreparedUnit} (h : o.prepare connection unit statement = (.ok u, o')) :
    o'.journal = o.journal ++ [.prepared u.statement statement.insert unit.sql] := by
  rcases o.prepare_cases connection unit statement with ⟨e, -, h'⟩ | ⟨st, -, -, -, h'⟩ <;> rw [h'] at h
  · cases h
  · cases h
    rfl

end Opened

end ShardProxy
