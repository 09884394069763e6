import Mathlib.Algebra.Order.BigOperators.Group.List
import Mathlib.Algebra.Order.Group.Nat
import Mathlib.Data.List.Nodup
import ShardProxy.Proofs.Lists
import ShardProxy.Proofs.Service.Acts

/-!
# Everything that is opened is closed once

The calls that open and close are shared out among the clients: each stands in the journal for one of
them, in the ledger of the resources that this client holds. No two connections and no two statements
have one number, so what was opened for one client is not closed for another. A client that is done
holds nothing, and all that was opened for it is closed, once.
-/

namespace ShardProxy

namespace Service

/-- What the moves keep. -/
structure Sound (s : Service) : Prop where
  numbered : Numbered 0 s.journal
  /-- Calls that are not about executions were made for the clients. -/
  shared : ∀ f : Call → Bool, (∀ call, f call = true → call.isExecution = false) →
    s.journal.countP f = (s.clients.map fun k => k.calls.countP f).sum
  ledger : ∀ k ∈ s.clients, Ledger .empty k.calls k.portal.stream.resources
  empty : ∀ k ∈ s.clients, k.isDone = true → k.portal.stream.resources.isEmpty = true

namespace Sound

variable {s s' : Service}

theorem of_journal_eq_nil {p : Proxy} (h : p.system.journal = []) : Sound (ofProxy p) := by
  have hjournal : (ofProxy p).journal = [] := h
  refine ⟨?_, ?_, ?_, ?_⟩
  · rw [hjournal]
    trivial
  · intro f _
    rw [hjournal]
    rfl
  · intro k hk
    cases hk
  · intro k hk
    cases hk

theorem enter (h : s.Sound) (portal : Portal) (hportal : portal.stream.resources = .empty) :
    Sound { s with clients := s.clients ++ [.ofPortal portal] } := by
  refine ⟨h.numbered, ?_, ?_, ?_⟩
  · intro f hf
    rw [List.map_append, List.sum_append]
    exact h.shared f hf
  · intro k hk
    rcases List.mem_append.mp hk with hk | hk
    · exact h.ledger k hk
    · obtain rfl := List.mem_singleton.mp hk
      rw [Client.ofPortal, hportal]
      exact .rest _
  · intro k hk hdone
    rcases List.mem_append.mp hk with hk | hk
    · exact h.empty k hk hdone
    · obtain rfl := List.mem_singleton.mp hk
      cases hdone

theorem acted (h : s.Sound) {i : Nat} {k : Client} {a : Act} {x : Stage × Portal × Proxy}
    (hk : s.clients[i]? = some k) (hx : k.act s.proxy a = some x) : Sound (s.acted i k x) := by
  obtain ⟨calls, hleads⟩ := Client.act_leads hx
  have hmem : k ∈ s.clients := List.mem_of_getElem? hk
  have hjournal : x.2.2.system.journal = s.journal ++ calls := hleads.journal
  have hclients : (s.acted i k x).clients =
      s.clients.set i ⟨x.2.1, x.1, k.calls ++ calls⟩ := by
    rw [Service.acted, drop_journal hjournal]
  refine ⟨?_, ?_, ?_, ?_⟩
  · have hnumbered : Numbered s.journal.length calls := hleads.numbered
    rw [journal, Service.acted, hjournal]
    exact h.numbered.append (by rwa [Nat.zero_add])
  · intro f hf
    have hset := sum_map_set (fun k : Client => k.calls.countP f) hk ⟨x.2.1, x.1, k.calls ++ calls⟩
    have hshared := h.shared f hf
    rw [journal, hclients]
    simp only [Service.acted, hjournal, List.countP_append] at hset ⊢
    omega
  · intro k' hk'
    rw [hclients] at hk'
    rcases List.mem_or_eq_of_mem_set hk' with hk' | rfl
    · exact h.ledger k' hk'
    · exact (h.ledger k hmem).append hleads.ledger
  · intro k' hk' hdone
    rw [hclients] at hk'
    rcases List.mem_or_eq_of_mem_set hk' with hk' | rfl
    · exact h.empty k' hk' hdone
    · exact Client.isEmpty_of_isDone hx hdone

theorem event (h : s.Sound) {e : Event} {system : System} (he : s.proxy.system.step e = some system) :
    Sound { s with proxy := { s.proxy with system } } := by
  obtain ⟨calls, hjournal, hcalls⟩ := System.journal_of_step he
  refine ⟨?_, ?_, h.ledger, h.empty⟩
  · have hnumbered : Numbered (0 + s.journal.length) calls :=
      .of_opened? fun call hcall => Call.opened?_of_isExecution (hcalls call hcall)
    rw [journal, hjournal]
    exact h.numbered.append hnumbered
  · intro f hf
    have hnone : calls.countP f = 0 := by
      rw [List.countP_eq_zero]
      intro call hcall hfc
      have hexecution := hcalls call hcall
      rw [hf call hfc] at hexecution
      cases hexecution
    have hshared := h.shared f hf
    rw [journal, hjournal, List.countP_append, hnone]
    exact hshared

theorem step {m : Move} (h : s.Sound) (hs : s.step m = some s') : s'.Sound := by
  cases m with
  | enter statementId parameters =>
    cases hs
    exact h.enter _ rfl
  | act i a =>
    obtain ⟨k, x, hk, hx, rfl⟩ := act_inv hs
    exact h.acted hk hx
  | event e =>
    obtain ⟨system, he, rfl⟩ := Option.map_eq_some_iff.mp hs
    exact h.event he
  | adjust p =>
    cases hs
    exact ⟨h.numbered, h.shared, h.ledger, h.empty⟩

theorem run {moves : List Move} (h : s.Sound) (hrun : s.run? moves = some s') : s'.Sound :=
  keeps_run (fun h hs => h.step hs) h hrun

end Sound

/-! ## Opened and closed -/

namespace Sound

variable {s : Service} {k : Client}

/-- What calls of one kind were about in the journal, they were about for the clients. -/
theorem count_shared (h : s.Sound) {f : Call → Option Resource}
    (hf : ∀ {call : Call}, call.isExecution = true → f call = none) (x : Resource) :
    (s.journal.filterMap f).count x = (s.clients.map fun k => (k.calls.filterMap f).count x).sum := by
  have hshared := h.shared (fun call => f call == some x) ?_
  · simpa only [List.count_filterMap] using hshared
  · intro call hcall
    cases hexecution : call.isExecution with
    | false => rfl
    | true =>
      rw [hf hexecution] at hcall
      cases hcall

/-- Nothing is closed for a client that was not opened for it. -/
theorem closed_le_opened_client (h : s.Sound) (hk : k ∈ s.clients) (x : Resource) :
    k.calls.closed.count x ≤ k.calls.opened.count x := by
  have hcount : k.calls.closed.count x + k.portal.stream.resources.held.count x =
      k.calls.opened.count x + 0 := (h.ledger k hk).count_closed x
  omega

theorem closed_le_opened (h : s.Sound) (x : Resource) :
    s.journal.closed.count x ≤ s.journal.opened.count x := by
  rw [Journal.closed, Journal.opened, h.count_shared Call.closed?_of_isExecution,
    h.count_shared Call.opened?_of_isExecution]
  exact List.sum_le_sum fun k hk => h.closed_le_opened_client hk x

theorem opened_le_one (h : s.Sound) (x : Resource) : s.journal.opened.count x ≤ 1 :=
  List.nodup_iff_count_le_one.mp h.numbered.nodup_opened x

/-- What was opened for a client that is done was closed. -/
theorem mem_closed_of_isDone (h : s.Sound) (hk : k ∈ s.clients) (hdone : k.isDone = true)
    {x : Resource} (hx : x ∈ k.calls.opened) : x ∈ k.calls.closed := by
  have hcount := (h.ledger k hk).count_closed x
  have hheld : k.portal.stream.resources.held = [] := Resources.held_eq_nil (h.empty k hk hdone)
  have hopened : 0 < k.calls.opened.count x := List.count_pos_iff.mpr hx
  rw [hheld, List.count_nil] at hcount
  rw [← List.count_pos_iff]
  have : 0 < (Journal.closed k.calls).count x := by omega
  exact this

/-- What calls of one kind were about for a client, they were about in the journal. -/
theorem mem_journal (h : s.Sound) (hk : k ∈ s.clients) {f : Call → Option Resource}
    (hf : ∀ {call : Call}, call.isExecution = true → f call = none) {x : Resource}
    (hx : x ∈ k.calls.filterMap f) : x ∈ s.journal.filterMap f := by
  rw [← List.count_pos_iff, h.count_shared hf]
  exact List.sum_pos_iff_exists_pos_nat.mpr
    ⟨_, List.mem_map_of_mem hk, List.count_pos_iff.mpr hx⟩

theorem mem_journal_closed (h : s.Sound) (hk : k ∈ s.clients) {x : Resource}
    (hx : x ∈ k.calls.closed) : x ∈ s.journal.closed :=
  h.mem_journal hk Call.closed?_of_isExecution hx

theorem mem_journal_opened (h : s.Sound) (hk : k ∈ s.clients) {x : Resource}
    (hx : x ∈ k.calls.opened) : x ∈ s.journal.opened :=
  h.mem_journal hk Call.opened?_of_isExecution hx

/-- Calls that are not about executions were made for a client. -/
theorem exists_client (h : s.Sound) {call : Call} (hcall : call ∈ s.journal)
    (hexecution : call.isExecution = false) : ∃ k ∈ s.clients, call ∈ k.calls := by
  have hshared := h.shared (· == call) ?_
  · have hpos : 0 < s.journal.countP (· == call) := List.count_pos_iff.mpr hcall
    rw [hshared, List.sum_pos_iff_exists_pos_nat] at hpos
    obtain ⟨n, hn, hpos⟩ := hpos
    obtain ⟨k, hk, rfl⟩ := List.mem_map.mp hn
    exact ⟨k, hk, List.count_pos_iff.mp hpos⟩
  · intro call' hcall'
    rw [eq_of_beq hcall']
    exact hexecution

end Sound

/-- At any time of any run of a proxy that is new: nothing is opened twice, nothing is closed more
often than it was opened, and each call that is not about an execution was made for a client. For each
client the calls are those of a ledger, which releases all that is open at once and in order; nothing
is closed for it that was not opened for it; and once it is done, all that was opened for it was closed
once. -/
theorem resources_of_run {p : Proxy} {moves : List Move} {s : Service}
    (start : p.system.journal = []) (run : (ofProxy p).run? moves = some s) :
    (∀ x, s.journal.closed.count x ≤ s.journal.opened.count x ∧ s.journal.opened.count x ≤ 1) ∧
    (∀ call ∈ s.journal, call.isExecution = false → ∃ k ∈ s.clients, call ∈ k.calls) ∧
    ∀ k ∈ s.clients,
      Ledger .empty k.calls k.portal.stream.resources ∧
      (∀ x ∈ k.calls.closed, x ∈ k.calls.opened) ∧
      (k.isDone = true → ∀ x ∈ k.calls.opened, s.journal.closed.count x = 1) := by
  have h : s.Sound := (Sound.of_journal_eq_nil start).run run
  refine ⟨fun x => ⟨h.closed_le_opened x, h.opened_le_one x⟩, fun call => h.exists_client, ?_⟩
  intro k hk
  refine ⟨h.ledger k hk, ?_, ?_⟩
  · intro x hx
    have hclosed := List.count_pos_iff.mpr hx
    have hle := h.closed_le_opened_client hk x
    exact List.count_pos_iff.mp (Nat.lt_of_lt_of_le hclosed hle)
  · intro hdone x hx
    have hclosed : 0 < s.journal.closed.count x :=
      List.count_pos_iff.mpr (h.mem_journal_closed hk (h.mem_closed_of_isDone hk hdone hx))
    have hle := h.closed_le_opened x
    have hone := h.opened_le_one x
    omega

theorem resources_of_run_givenUp :
    let source : Source := ⟨0, "a", .yielding (.update 1 0)⟩
    let route : Route := ⟨.ofType .dml, [⟨"a", "SQL"⟩]⟩
    let p : Proxy := { Proxy.ofRouting .default (.sharding fun _ _ => .ok route) 1 with
      sources := ⟨[source]⟩, statements := (Registry.empty.register "SQL").2 }
    let moves : List Move :=
      [.enter 1 [], .act 0 .execute, .act 0 .connect, .act 0 .giveUp, .act 0 .execute, .act 0 .connect,
        .act 0 .prepare, .act 0 .submit, .event (.enqueue (0, 0)), .event (.grant (0, 0)),
        .event (.finish (0, 0)), .event (.join (0, 0)), .event (.collect 0), .act 0 .finish,
        .act 0 .hasMore]
    ∃ s k, (ofProxy p).run? moves = some s ∧ s.clients[0]? = some k ∧
      k.calls.opened = [.connection ⟨source, 0⟩, .connection ⟨source, 1⟩, .statement ⟨source, 2⟩] ∧
      ∀ x ∈ k.calls.opened, s.journal.closed.count x = 1 := by
  intro source route p moves
  have hrun : (((ofProxy p).run? moves).bind (·.clients[0]?)).any (fun k =>
      k.isDone ∧ k.calls.opened =
        [.connection ⟨source, 0⟩, .connection ⟨source, 1⟩, .statement ⟨source, 2⟩]) = true := by
    decide +kernel
  obtain ⟨k, hk, hfacts⟩ := (Option.any_eq_true _ _).mp hrun
  obtain ⟨hdone, hopened⟩ := of_decide_eq_true hfacts
  obtain ⟨s, hs, hk⟩ := Option.bind_eq_some_iff.mp hk
  obtain ⟨-, -, h⟩ := resources_of_run rfl hs
  exact ⟨s, k, hs, hk, hopened, (h k (List.mem_of_getElem? hk)).2.2 hdone⟩

end Service

end ShardProxy
