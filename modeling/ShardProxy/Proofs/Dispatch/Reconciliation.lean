import ShardProxy.Proofs.Dispatch
import ShardProxy.Proofs.Merge.Refusal

/-!
# Answers that leave the row stream alone

What the shards answered is settled by packets alone unless their rows are merged, and the row stream
then stays as it was: its state, its number, its types and its resources.

    Settles statement responses packets  →  reconcile statement responses stream = (packets, stream)

The error of the first response that begins with one comes before everything else, and a merge that is
refused is refused as a whole.
-/

namespace ShardProxy.Dispatch

variable {statement : Statement} {responses : List ShardResponse} {packets : Response}

/-! ## Heads of responses -/

theorem error?_eq_some_iff {r : ShardResponse} {p : ErrPacket} :
    error? r = some p ↔ r.packets.head? = some (.err p) := by
  unfold error?
  split <;> simp_all

theorem error?_eq_none_iff {r : ShardResponse} :
    error? r = none ↔ ∀ p, r.packets.head? ≠ some (.err p) := by
  simp only [Option.eq_none_iff_forall_ne_some, ne_eq, error?_eq_some_iff]

theorem update?_eq_some_iff {r : ShardResponse} {p : OkPacket} :
    update? r = some p ↔ r.packets.head? = some (.ok p) := by
  unfold update?
  split <;> simp_all

theorem update?_eq_none_iff {r : ShardResponse} :
    update? r = none ↔ ∀ p, r.packets.head? ≠ some (.ok p) := by
  simp only [Option.eq_none_iff_forall_ne_some, ne_eq, update?_eq_some_iff]

/-- No shard answered with an error. -/
def Errorless (responses : List ShardResponse) : Prop :=
  ∀ r ∈ responses, ∀ p, r.packets.head? ≠ some (.err p)

theorem findSome?_error?_eq_none (h : Errorless responses) : responses.findSome? error? = none :=
  List.findSome?_eq_none_iff.mpr fun r hr => error?_eq_none_iff.mpr (h r hr)

/-! ## What settles a command -/

/-- The changed rows of all responses that begin with an update. -/
def totalRows (responses : List ShardResponse) : Nat :=
  ((responses.filterMap update?).map (·.affectedRows.toNat)).sum

/-- The first generated key that is not zero. -/
def firstKey (responses : List ShardResponse) : UInt64 :=
  (((responses.filterMap update?).map (·.lastInsertId)).find? (· ≠ 0)).getD 0

/-- Why rows are not merged: a response carries none, or its result sets do not let themselves be
merged. -/
inductive Unmerged (statement : Statement) (responses : List ShardResponse) : MergeError → Prop
  | noRows {front behind : List ShardResponse} {r : ShardResponse} :
      responses = front ++ r :: behind → (∀ q ∈ front, q.rows.isSome) → r.rows = none →
        Unmerged statement responses (.noResultSet r.dataSource)
  | refused {e : MergeError} : (∀ r ∈ responses, r.rows.isSome) →
      Merge.Obstructs (rowsOf responses) statement.orderBy e → Unmerged statement responses e

/-- The answers that do not touch the row stream. -/
inductive Settles (statement : Statement) : List ShardResponse → Response → Prop
  | failed {front behind : List ShardResponse} {r : ShardResponse} {p : ErrPacket} :
      Errorless front → r.packets.head? = some (.err p) →
        Settles statement (front ++ r :: behind) [.err p]
  | empty : Settles statement [] [.ok ⟨1, 0, 0, autocommit, 0, ""⟩]
  | updated {first : ShardResponse} {rest : List ShardResponse} {affectedRows : UInt64} :
      Errorless (first :: rest) → statement.type = .dml →
      affectedRows.toNat = totalRows (first :: rest) →
        Settles statement (first :: rest)
          [.ok ⟨1, affectedRows, firstKey (first :: rest), autocommit, 0, ""⟩]
  | passed {first : ShardResponse} {rest : List ShardResponse} :
      Errorless (first :: rest) → statement.type ≠ .dml →
      (statement.type = .dql ∨ statement.type = .dal → ∃ p, first.packets.head? = some (.ok p)) →
        Settles statement (first :: rest) first.packets
  | unmerged {first : ShardResponse} {rest : List ShardResponse} {e : MergeError} :
      Errorless (first :: rest) → statement.type = .dql ∨ statement.type = .dal →
      (∀ p, first.packets.head? ≠ some (.ok p)) → Unmerged statement (first :: rest) e →
        Settles statement (first :: rest) [.err ⟨1, e.code, e.state, e.message⟩]

/-! ## Updates -/

theorem toNat_foldl_addUpdate (updates : List OkPacket) (sum : UInt64 × UInt64) :
    (updates.foldl addUpdate sum).1.toNat =
      (sum.1.toNat + (updates.map (·.affectedRows.toNat)).sum) % 2 ^ 64 := by
  induction updates generalizing sum with
  | nil =>
    have := sum.1.toNat_lt
    rw [List.foldl_nil, List.map_nil, List.sum_nil, Nat.add_zero, Nat.mod_eq_of_lt this]
  | cons p updates ih =>
    have hadd : (addUpdate sum p).1.toNat = (sum.1.toNat + p.affectedRows.toNat) % 2 ^ 64 :=
      UInt64.toNat_add _ _
    rw [List.foldl_cons, ih, hadd, List.map_cons, List.sum_cons]
    omega

theorem foldl_addUpdate_snd (updates : List OkPacket) (sum : UInt64 × UInt64) :
    (updates.foldl addUpdate sum).2 =
      if sum.2 = 0 then ((updates.map (·.lastInsertId)).find? (· ≠ 0)).getD 0 else sum.2 := by
  induction updates generalizing sum with
  | nil =>
    split
    · next h => exact h
    · rfl
  | cons p updates ih =>
    rw [List.foldl_cons, ih, List.map_cons, List.find?_cons]
    by_cases hsum : sum.2 = 0
    · by_cases hp : p.lastInsertId = 0 <;> simp [addUpdate, hsum, hp]
    · simp [addUpdate, hsum]

theorem mergeUpdates_eq {affectedRows : UInt64} (h : affectedRows.toNat = totalRows responses) :
    mergeUpdates responses =
      [.ok ⟨1, affectedRows, firstKey responses, autocommit, 0, ""⟩] := by
  have hrows : ((responses.filterMap update?).foldl addUpdate (0, 0)).1 = affectedRows := by
    have hlt := affectedRows.toNat_lt
    rw [← UInt64.toNat_inj, toNat_foldl_addUpdate]
    change (0 + totalRows responses) % 2 ^ 64 = affectedRows.toNat
    omega
  have hkey : ((responses.filterMap update?).foldl addUpdate (0, 0)).2 = firstKey responses :=
    foldl_addUpdate_snd _ _
  rw [mergeUpdates]
  simp only [hrows, hkey]
  rfl

/-! ## Rows -/

theorem exists_resultSet {r : ShardResponse} : (∃ s, resultSet r = .ok s) ↔ r.rows.isSome := by
  unfold resultSet
  cases r.rows <;> simp

theorem resultSet_eq_error_iff {r : ShardResponse} {e : MergeError} :
    resultSet r = .error e ↔ r.rows = none ∧ e = .noResultSet r.dataSource := by
  unfold resultSet
  cases r.rows <;> simp [eq_comm]

/-- Rows are merged unless something is in the way. -/
theorem unmerged_or_merged (statement : Statement) (responses : List ShardResponse) :
    (∃ e, Unmerged statement responses e) ∨
      (∀ r ∈ responses, r.rows.isSome) ∧ ∃ m, Merge.merge (rowsOf responses) statement = .ok m := by
  cases hsets : resultSets responses with
  | error e =>
    rw [resultSets, mapM_eq_error_iff] at hsets
    obtain ⟨front, r, behind, hresponses, hfront, hr⟩ := hsets
    obtain ⟨hnone, -⟩ := resultSet_eq_error_iff.mp hr
    exact .inl ⟨_, .noRows hresponses (fun q hq => exists_resultSet.mp (hfront q hq)) hnone⟩
  | ok shards =>
    have hrows : ∀ r ∈ responses, r.rows.isSome := fun r hr =>
      exists_resultSet.mp (exists_mapM_eq_ok_iff.mp ⟨shards, hsets⟩ r hr)
    cases hm : Merge.merge (rowsOf responses) statement with
    | error e => exact .inl ⟨e, .refused hrows (Merge.merge_eq_error_iff.mp hm)⟩
    | ok m => exact .inr ⟨hrows, m, rfl⟩

theorem mergeRows_of_unmerged {e : MergeError} (h : Unmerged statement responses e)
    (first : ShardResponse) (stream : RowStream Merged) :
    mergeRows statement first responses stream = .error e := by
  cases h with
  | @noRows front behind r hresponses hfront hr =>
    have hsets : resultSets responses = .error (.noResultSet r.dataSource) := by
      rw [resultSets, mapM_eq_error_iff]
      exact ⟨front, r, behind, hresponses, fun q hq => exists_resultSet.mpr (hfront q hq),
        resultSet_eq_error_iff.mpr ⟨hr, rfl⟩⟩
    simp only [mergeRows, hsets]
  | refused hrows h =>
    simp only [mergeRows, resultSets_eq_ok hrows, Merge.merge_eq_error_iff.mpr h]
    rfl

/-! ## The answer -/

theorem producesRows_iff {type : SqlType} : type.producesRows ↔ type = .dql ∨ type = .dal := by
  cases type <;> decide

/-- Answers of which the row stream knows nothing: an error of a shard, which comes before everything
else, the sum of updates, the answer of the first shard, and the reason why rows are not merged. -/
theorem reconcile_of_settles (h : Settles statement responses packets) (stream : RowStream Merged) :
    reconcile statement responses stream = (packets, stream) := by
  cases h with
  | failed hfront hr =>
    rw [reconcile, List.findSome?_append, findSome?_error?_eq_none hfront, Option.none_or,
      List.findSome?_cons, error?_eq_some_iff.mpr hr]
  | empty => rfl
  | updated herror hdml hrows =>
    simp only [reconcile, findSome?_error?_eq_none herror, answer, if_pos hdml, mergeUpdates_eq hrows]
  | @passed first rest herror hdml hok =>
    have hmerges : ¬ (statement.type.producesRows ∧ (update? first).isNone) := by
      rintro ⟨hproduces, hnone⟩
      obtain ⟨p, hp⟩ := hok (producesRows_iff.mp hproduces)
      rw [update?_eq_some_iff.mpr hp] at hnone
      cases hnone
    simp only [reconcile, findSome?_error?_eq_none herror, answer, if_neg hdml, if_neg hmerges]
  | @unmerged first rest e herror htype hfirst hunmerged =>
    have hdml : statement.type ≠ .dml := by rcases htype with h | h <;> rw [h] <;> decide
    have hmerges : statement.type.producesRows ∧ (update? first).isNone :=
      ⟨producesRows_iff.mpr htype, by rw [update?_eq_none_iff.mpr hfirst]; rfl⟩
    simp only [reconcile, findSome?_error?_eq_none herror, answer, if_neg hdml, if_pos hmerges,
      mergeRows_of_unmerged hunmerged]
    rfl

/-- What is not settled so is a query whose rows are merged. -/
theorem settles_or_merged (hrows : statement.type = .dml → totalRows responses < 2 ^ 64) :
    (∃ packets, Settles statement responses packets) ∨
      ∃ first rest m, responses = first :: rest ∧ Errorless responses ∧
        (statement.type = .dql ∨ statement.type = .dal) ∧
        (∀ p, first.packets.head? ≠ some (.ok p)) ∧
        (∀ r ∈ responses, r.rows.isSome) ∧ Merge.merge (rowsOf responses) statement = .ok m := by
  cases herror : responses.findSome? error? with
  | some p =>
    obtain ⟨front, r, behind, rfl, hr, hfront⟩ := List.findSome?_eq_some_iff.mp herror
    exact .inl ⟨_, .failed (fun q hq => error?_eq_none_iff.mp (hfront q hq)) (error?_eq_some_iff.mp hr)⟩
  | none =>
    have herrorless : Errorless responses := fun r hr =>
      error?_eq_none_iff.mp (List.findSome?_eq_none_iff.mp herror r hr)
    cases responses with
    | nil => exact .inl ⟨_, .empty⟩
    | cons first rest =>
      by_cases hdml : statement.type = .dml
      · have hsum : (UInt64.ofNat (totalRows (first :: rest))).toNat = totalRows (first :: rest) :=
          UInt64.toNat_ofNat_of_lt' (hrows hdml)
        exact .inl ⟨_, .updated herrorless hdml hsum⟩
      by_cases htype : statement.type = .dql ∨ statement.type = .dal
      · by_cases hfirst : ∃ p, first.packets.head? = some (.ok p)
        · exact .inl ⟨_, .passed herrorless hdml fun _ => hfirst⟩
        · have hfirst := not_exists.mp hfirst
          rcases unmerged_or_merged statement (first :: rest) with ⟨e, he⟩ | ⟨hall, m, hm⟩
          · exact .inl ⟨_, .unmerged herrorless htype hfirst he⟩
          · exact .inr ⟨first, rest, m, rfl, herrorless, htype, hfirst, hall, hm⟩
      · exact .inl ⟨_, .passed herrorless hdml fun h => absurd h htype⟩

/-- Two shards that disagree on the number of columns, and one that answered with an error. -/
def disagreeing : ShardResponse × ShardResponse × ShardResponse :=
  let id := ColumnDefinition.ofName "id" .longLong
  (.ofOutcome "ds_0" (.rows [id] (.ofRows [[.int 1]] none)),
    .ofOutcome "ds_1" (.rows [id, id] (.ofRows [[.int 2, .int 2]] none)),
    .ofOutcome "ds_2" (.failure ⟨1064, "42000", "syntax"⟩))

/-- The error is the answer for all of them, and without it the second shard is refused; a stream in
use stays in use. -/
theorem reconcile_disagreeing :
    let stream : RowStream Merged := RowStream.idle.activate (.all (.concat ⟨[]⟩)) [.longLong] 3
    let (narrow, wide, failed) := disagreeing
    reconcile (.ofType .dql) [narrow, wide, failed] stream =
        ([.err ⟨1, 1064, "42000", "syntax"⟩], stream) ∧
      reconcile (.ofType .dal) [narrow, wide] stream =
        ([.err ⟨1, 0, "HY000", "Shard 1 returned 2 columns, expected 1"⟩], stream) := by
  have herrorless : Errorless [disagreeing.1, disagreeing.2.1] := fun r hr =>
    error?_eq_none_iff.mp (by revert r; decide)
  have hmisfit : Merge.Misfits (rowsOf [disagreeing.1, disagreeing.2.1]) [] (.columnCount 1 2 1) :=
    Merge.validate_eq_error_iff.mp (by decide)
  have hunmerged : Unmerged (.ofType .dal) [disagreeing.1, disagreeing.2.1] (.columnCount 1 2 1) :=
    .refused (by decide) (.misfit hmisfit)
  have hfailed : Settles (.ofType .dql) ([disagreeing.1, disagreeing.2.1] ++ [disagreeing.2.2]) _ :=
    .failed herrorless rfl
  have hrefused : Settles (.ofType .dal) [disagreeing.1, disagreeing.2.1] _ :=
    .unmerged herrorless (.inr rfl) (update?_eq_none_iff.mp rfl) hunmerged
  exact ⟨reconcile_of_settles hfailed _, reconcile_of_settles hrefused _⟩

end ShardProxy.Dispatch
