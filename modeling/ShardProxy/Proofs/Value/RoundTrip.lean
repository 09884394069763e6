import ShardProxy.Proofs.Value.Exact
import ShardProxy.Proofs.Value.IntegerText

/-!
# There and back between representations

An integer that is made a text, a decimal or bytes keeps all its digits, so that it can be read back from
them as the same number. A text and its bytes are made of each other:

    coerce (.text s) .blob = .ok (.bytes b)   ↔   coerce (.bytes b) .varString = .ok (.text s)

Bytes that are no UTF-8 are no text.
-/

namespace ShardProxy.Value

/-! ## Integers -/

theorem writes_plain {v : Value} {n : Int} (h : v.integer? = some n) : Numeral.Writes v.plain.toList n := by
  cases v <;> cases h
  · exact Numeral.writes_toString _
  · exact Numeral.writes_toString_nat _

/-- The representations that hold text. -/
theorem exists_written {v : Value} {n : Int} (h : v.integer? = some n) {t : ColumnType}
    (ht : t.representation = .text ∨ t.representation = .decimal ∨ t.representation = .binary) :
    ∃ w, v.coerce t = .ok w ∧ w.WritesInteger n := by
  have hnull : v ≠ null := by
    rintro rfl
    cases h
  have hplain : ∃ w, v.represent? t.representation = some w ∧ w.TextOf v.plain := by
    rcases ht with ht | ht | ht <;> rw [ht] <;> cases v <;> cases h
    · exact ⟨_, rfl, .text _⟩
    · exact ⟨_, rfl, .text _⟩
    · exact ⟨_, rfl, .decimal _⟩
    · exact ⟨_, rfl, .decimal _⟩
    · exact ⟨_, rfl, .bytes _⟩
    · exact ⟨_, rfl, .bytes _⟩
  obtain ⟨w, hw, htext⟩ := hplain
  exact ⟨w, (coerce_eq_ok_iff hnull).mpr hw, _, _, htext, Text.framed_self _, writes_plain h⟩

/-- An integer is read back from its digits, a signed word as the same one. -/
theorem exists_read {v w : Value} {n : Int} (h : v.integer? = some n) (hw : w.WritesInteger n)
    {t : ColumnType} (ht : t.isInteger) :
    ∃ x, w.coerce t = .ok x ∧ x.integer? = some n ∧ ∀ k, v = int k → x = int k := by
  obtain ⟨hlow, hhigh⟩ := range_of_integer? h
  rcases Int.lt_or_le n (2 ^ 63) with hsigned | hunsigned
  · obtain ⟨k, hk, hread⟩ := exists_int64 ht hw hlow (by omega)
    refine ⟨int k, hread, congrArg some hk, fun i hi => ?_⟩
    rw [hi] at h
    rw [Int64.toInt_inj.mp (hk.trans (Option.some.inj h).symm)]
  · obtain ⟨k, hk, hread⟩ := exists_uint64 ht hw hunsigned hhigh
    refine ⟨uint k, hread, congrArg some hk, fun i hi => ?_⟩
    rw [hi] at h
    have hlt := i.toInt_lt
    have heq : i.toInt = n := Option.some.inj h
    omega

/-! ## Texts and bytes -/

theorem coerce_text_binary (s : String) {t : ColumnType} (ht : t.representation = .binary) :
    (text s).coerce t = .ok (bytes s.toUTF8.data.toList) := by
  rw [coerce_eq_ok_iff (by simp), ht]
  rfl

/-- Bytes become the text that they encode. -/
theorem coerce_bytes_text {b : List UInt8} {t : ColumnType} (ht : t.representation = .text) {w : Value} :
    (bytes b).coerce t = .ok w ↔ ∃ s : String, s.toUTF8.data.toList = b ∧ w = text s := by
  rw [coerce_eq_ok_iff (by simp), ht, represent?, toText?, Option.map_eq_some_iff]
  simp only [text?, Text.fromUTF8?_eq_some_iff]
  exact exists_congr fun s => and_congr_right fun _ => eq_comm

theorem exists_coerce_bytes_text {b : List UInt8} {t : ColumnType} (ht : t.representation = .text) :
    (∃ w, (bytes b).coerce t = .ok w) ↔ ByteArray.IsValidUTF8 ⟨b.toArray⟩ := by
  rw [← Text.isSome_fromUTF8?_iff]
  simp only [coerce_bytes_text ht, Text.fromUTF8?_eq_some_iff]
  constructor
  · rintro ⟨w, s, hs, -⟩
    exact ⟨s, hs⟩
  · rintro ⟨s, hs⟩
    exact ⟨text s, s, hs, rfl⟩

theorem isBinary_iff {t : ColumnType} : t.isBinary ↔ t.representation = .binary := by
  rw [ColumnType.isBinary, decide_eq_true_eq]

/-- What the representations of text keep. An integer comes back as the same number, a signed one as the
same value; a text comes back from its bytes; and of bytes those come back that are UTF-8, while the others
do not become a text. -/
theorem coerce_round_trip :
    (∀ (v : Value) (n : Int) (t i : ColumnType), v.integer? = some n →
      (t.representation = .text ∨ t.representation = .decimal ∨ t.representation = .binary) →
      i.isInteger →
        ∃ w x, v.coerce t = .ok w ∧ w.coerce i = .ok x ∧ x.order v = .eq ∧ x.integer? = some n ∧
          ∀ k, v = int k → x = int k) ∧
      (∀ (s : String) (t u : ColumnType), t.isBinary → u.representation = .text →
        ∃ w, (text s).coerce t = .ok w ∧ w.coerce u = .ok (text s)) ∧
      ∀ (b : List UInt8) (t u : ColumnType), t.representation = .text → u.isBinary →
        ((∃ w, (bytes b).coerce t = .ok w) ↔ ByteArray.IsValidUTF8 ⟨b.toArray⟩) ∧
          ∀ w, (bytes b).coerce t = .ok w → w.coerce u = .ok (bytes b) := by
  refine ⟨fun v n t i hv ht hi => ?_, fun s t u ht hu => ?_, fun b t u ht hu => ⟨?_, fun w hw => ?_⟩⟩
  · obtain ⟨w, hw, hwrites⟩ := exists_written hv ht
    obtain ⟨x, hx, hinteger, hsame⟩ := exists_read hv hwrites hi
    exact ⟨w, x, hw, hx, order_of_level (.inr ⟨n, hinteger, hv⟩), hinteger, hsame⟩
  · exact ⟨_, coerce_text_binary s (isBinary_iff.mp ht), (coerce_bytes_text hu).mpr ⟨s, rfl, rfl⟩⟩
  · exact exists_coerce_bytes_text ht
  · obtain ⟨s, hs, rfl⟩ := (coerce_bytes_text ht).mp hw
    rw [coerce_text_binary s (isBinary_iff.mp hu), hs]

/-- The least signed integer by way of bytes, a text by way of its bytes, and those bytes by way of the
text. -/
theorem coerce_round_trip_least :
    (∃ w x, (int Int64.minValue).coerce .blob = .ok w ∧ w.coerce .longLong = .ok x ∧
        x.order (int Int64.minValue) = .eq ∧ x.integer? = some (-2 ^ 63) ∧
          ∀ k, int Int64.minValue = int k → x = int k) ∧
      (∃ w, (text "é").coerce .bit = .ok w ∧ w.coerce .varString = .ok (text "é")) ∧
      (bytes [0xC3, 0xA9]).coerce .varString = .ok (text "é") ∧
      (text "é").coerce .blob = .ok (bytes [0xC3, 0xA9]) := by
  have hread : (bytes [0xC3, 0xA9]).coerce .varString = .ok (text "é") := by decide +kernel
  exact ⟨coerce_round_trip.1 _ _ _ _ (by decide) (.inr (.inr rfl)) rfl,
    coerce_round_trip.2.1 _ _ _ rfl rfl, hread, (coerce_round_trip.2.2 _ _ _ rfl rfl).2 _ hread⟩

end ShardProxy.Value
