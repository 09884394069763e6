import ShardProxy.Merge
import ShardProxy.Proofs.Lists
import ShardProxy.Proofs.Value.Coercion

/-!
# Reading a merged value again

The cell of a row is read more than once: for the sort key that its row is merged by, for the row that is
sent on, and by whoever reads that row under the same types. A shard gives a value that is of the type it
was asked for, every merge gives what a shard gives, and a value that is of a type is read under it as it
is (`coerce_coerce`):

    RowSource.value m index t = .ok w   →   w.coerce t = .ok w                               (settles)
-/

namespace ShardProxy

/-- Sources that give no value under a type but one that is of the type as it is. -/
def RowSource.Settles (σ : Type) [RowSource σ] : Prop :=
  ∀ (s : σ) (index : Nat) (t : ColumnType) (w : Value),
    RowSource.value s index t = .ok w → w.coerce t = .ok w

open RowSource

theorem ShardRows.settles : Settles ShardRows := by
  intro s index t w h
  simp only [RowSource.value, value] at h
  split at h
  · cases h
  · next v _ =>
    cases hv : v.coerce t with
    | error e =>
      rw [hv] at h
      cases h
    | ok w' =>
      rw [hv] at h
      cases h
      exact Value.coerce_coerce hv

/-! ## Merges -/

section

variable {σ : Type} [RowSource σ] (hσ : Settles σ)
include hσ

theorem Concat.settles : Settles (Concat σ) := by
  intro c index t w h
  simp only [RowSource.value, value] at h
  split at h
  · cases h
  · exact hσ _ _ _ _ h

theorem Ordered.settles : Settles (Ordered σ) := by
  intro m index t w h
  simp only [RowSource.value, value] at h
  split at h
  · cases h
  · exact hσ _ _ _ _ h

theorem Limited.settles : Settles (Limited σ) := fun l => hσ l.inner

/-- All the cells of a row, each under its type. -/
theorem forall₂_of_read {s : σ} {types : List ColumnType} {row : Row}
    (h : RowSource.read s types = .ok row) :
    List.Forall₂ (fun t w => w.coerce t = .ok w) types row := by
  have hcells := (forall₂_of_mapM_eq_ok h).imp fun t w hw => hσ s (t.2 + 1) t.1 w hw
  have htypes : List.Forall₂ (fun t w => w.coerce t = .ok w) (types.zipIdx.map Prod.fst) row :=
    List.forall₂_map_left_iff.mpr hcells
  rwa [List.zipIdx_map_fst] at htypes

/-- The values of a sort key: what the cells are read as, and read again. -/
theorem forall₂_of_key {s : σ} {columns : List (Nat × ColumnType)} {key : List Value}
    (h : Ordered.key columns s = .ok key) :
    List.Forall₂ (fun c w => RowSource.value s c.1 c.2 = .ok w ∧ w.coerce c.2 = .ok w) columns key :=
  (forall₂_of_mapM_eq_ok h).imp fun c w hw => ⟨hw, hσ s c.1 c.2 w hw⟩

end

theorem MergedRows.settles : Settles MergedRows := by
  intro m
  cases m with
  | concat c => exact Concat.settles ShardRows.settles c
  | ordered m => exact Ordered.settles ShardRows.settles m

theorem Merged.settles : Settles Merged := by
  intro m
  cases m with
  | all rows => exact MergedRows.settles rows
  | part rows => exact Limited.settles MergedRows.settles rows

/-! ## Values and rows -/

/-- A coercion gives NULL or a value of the type's representation; NULL comes of NULL, or of the type that
holds nothing else. What it gives it gives again. So the rows of a merge, and the keys it is ordered by,
are read under their types as they are. -/
theorem coerce_settles :
    (∀ (v w : Value) (t : ColumnType), v.coerce t = .ok w →
      (w = .null ∨ w.representation = t.representation) ∧ (w = .null ↔ v = .null ∨ t = .null) ∧
        w.coerce t = .ok w) ∧
      (∀ (m : Merged) (types : List ColumnType) (row : Row), RowSource.read m types = .ok row →
        List.Forall₂ (fun t w => w.coerce t = .ok w) types row) ∧
      ∀ (s : ShardRows) (columns : List (Nat × ColumnType)) (key : List Value),
        Ordered.key columns s = .ok key →
          List.Forall₂ (fun c w => RowSource.value s c.1 c.2 = .ok w ∧ w.coerce c.2 = .ok w) columns key := by
  refine ⟨fun v w t h => ?_, fun m types row h => ?_, fun s columns key h => ?_⟩
  · exact ⟨Value.representation_of_coerce h, Value.eq_null_iff_of_coerce h, Value.coerce_coerce h⟩
  · exact forall₂_of_read Merged.settles h
  · exact forall₂_of_key ShardRows.settles h

/-- A shard that sends an integer as text, standing on its row. -/
def paddedShard : ShardRows :=
  ⟨"ds_0", [ColumnDefinition.ofName "id" .longLong, ColumnDefinition.ofName "note" .varString],
    ⟨[[.text " 42 ", .null]], 1, none⟩⟩

/-- The integer is read from the text once, and then as it is. -/
theorem coerce_settles_padded :
    (Value.text " 42 ").coerce .longLong = .ok (.int 42) ∧ (Value.int 42).coerce .longLong = .ok (.int 42) ∧
      RowSource.read (Merged.all (.concat ⟨[paddedShard]⟩)) [.longLong, .varString] =
        .ok [.int 42, .null] ∧
      List.Forall₂ (fun (t : ColumnType) (w : Value) => w.coerce t = .ok w) [.longLong, .varString]
        [.int 42, .null] ∧
      Ordered.key [(1, .longLong)] paddedShard = .ok [.int 42] ∧
      List.Forall₂ (fun (c : Nat × ColumnType) (w : Value) =>
          RowSource.value paddedShard c.1 c.2 = .ok w ∧ w.coerce c.2 = .ok w)
        [(1, .longLong)] [.int 42] := by
  have hvalue : (Value.text " 42 ").coerce .longLong = .ok (.int 42) := by decide +kernel
  have hrow : RowSource.read (Merged.all (.concat ⟨[paddedShard]⟩)) [.longLong, .varString] =
      .ok [.int 42, .null] := by decide +kernel
  have hkey : Ordered.key [(1, .longLong)] paddedShard = .ok [.int 42] := by decide +kernel
  exact ⟨hvalue, (coerce_settles.1 _ _ _ hvalue).2.2, hrow, coerce_settles.2.1 _ _ _ hrow, hkey,
    coerce_settles.2.2 _ _ _ hkey⟩

end ShardProxy
