import ShardProxy.Value.Coercion

/-!
# What a coercion returns

A value that is read under a type is NULL or of the type's representation, and NULL only if it was NULL
before or the type holds nothing else. Read under the type again it is the same value:

    v.coerce t = .ok w   →   w.coerce t = .ok w                                       (coerce_coerce)
-/

namespace ShardProxy.Value

theorem representation_of_ofIntegerText? {s : List Char} {w : Value} (h : ofIntegerText? s = some w) :
    w.representation = .integer := by
  rw [ofIntegerText?, Option.or_eq_some_iff, Option.map_eq_some_iff, Option.map_eq_some_iff] at h
  rcases h with ⟨n, -, rfl⟩ | ⟨-, n, -, rfl⟩
  · rfl
  · rfl

theorem representation_of_toInteger? {v w : Value} (h : v.toInteger? = some w) :
    w.representation = .integer := by
  unfold toInteger? at h
  split at h
  · cases h
    rfl
  · cases h
    rfl
  · obtain ⟨n, -, rfl⟩ := Option.map_eq_some_iff.mp h
    rfl
  · obtain ⟨s, -, hs⟩ := Option.bind_eq_some_iff.mp h
    exact representation_of_ofIntegerText? hs

theorem representation_of_toDecimal? {v w : Value} (h : v.toDecimal? = some w) :
    w.representation = .decimal := by
  unfold toDecimal? at h
  split at h
  iterate 4
    · cases h
      rfl
  · obtain ⟨s, -, hs⟩ := Option.bind_eq_some_iff.mp h
    obtain ⟨x, -, rfl⟩ := Option.map_eq_some_iff.mp hs
    rfl

theorem representation_of_represent? {v w : Value} {r : Representation} (h : v.represent? r = some w) :
    w.representation = r := by
  cases r with
  | null => cases h; rfl
  | integer => exact representation_of_toInteger? h
  | floating =>
    obtain ⟨x, -, rfl⟩ := Option.map_eq_some_iff.mp h
    rfl
  | decimal => exact representation_of_toDecimal? h
  | binary =>
    obtain rfl : v.toBytes = w := Option.some.inj h
    cases v <;> rfl
  | text =>
    obtain ⟨s, -, rfl⟩ := Option.map_eq_some_iff.mp h
    rfl

theorem representation_of_coerce {v w : Value} {t : ColumnType} (h : v.coerce t = .ok w) :
    w = null ∨ w.representation = t.representation := by
  unfold coerce at h
  split at h
  · cases h
    exact .inl rfl
  · split at h
    · next hr =>
      cases h
      exact .inr (representation_of_represent? hr)
    · cases h

/-! ## Reading again -/

theorem represent?_of_representation {w : Value} {r : Representation} (h : w.representation = r) :
    w.represent? r = some w := by
  cases w <;> cases h <;> rfl

theorem coerce_null (t : ColumnType) : null.coerce t = .ok null := rfl

/-- A value of a type's representation is one of the type as it is. -/
theorem coerce_of_representation {w : Value} {t : ColumnType} (h : w.representation = t.representation) :
    w.coerce t = .ok w := by
  unfold coerce
  split
  · next hnull => rw [hnull]
  · rw [represent?_of_representation h]

theorem coerce_coerce {v w : Value} {t : ColumnType} (h : v.coerce t = .ok w) : w.coerce t = .ok w := by
  rcases representation_of_coerce h with rfl | hw
  · exact coerce_null t
  · exact coerce_of_representation hw

/-! ## NULL, errors and all other values -/

theorem coerce_eq_ok_iff {v : Value} (hv : v ≠ null) {t : ColumnType} {w : Value} :
    v.coerce t = .ok w ↔ v.represent? t.representation = some w := by
  rw [coerce, if_neg hv]
  cases v.represent? t.representation <;> simp

/-- An error says which value it was, and what it was to become. -/
theorem eq_of_coerce_eq_error {v : Value} {t : ColumnType} {e : ConversionError}
    (h : v.coerce t = .error e) : e = ⟨v, t⟩ := by
  unfold coerce at h
  split at h
  · cases h
  · split at h <;> cases h
    rfl

theorem representation_eq_null_iff {t : ColumnType} : t.representation = .null ↔ t = .null := by
  cases t <;> decide

theorem eq_null_iff_of_coerce {v w : Value} {t : ColumnType} (h : v.coerce t = .ok w) :
    w = null ↔ v = null ∨ t = .null := by
  by_cases hv : v = null
  · subst hv
    exact iff_of_true (Except.ok.inj h).symm (.inl rfl)
  · rw [coerce_eq_ok_iff hv] at h
    rw [← representation_eq_null_iff, ← representation_of_represent? h]
    refine ⟨fun hw => .inr (by rw [hw]; rfl), fun hw => ?_⟩
    cases w with
    | null => rfl
    | _ => exact absurd (hw.resolve_left hv) Representation.noConfusion

end ShardProxy.Value
