import ShardProxy.Proofs.Numeral
import ShardProxy.Proofs.Text
import ShardProxy.Proofs.Value.Coercion

/-!
# Integers read from text

A text, a decimal or bytes become an integer if what stands in them between blanks is a sign, which may be
missing, and digits, and a 64-bit word holds the integer that these write. It is the signed word if there
is one, and otherwise the unsigned one:

    coerce (.text "9223372036854775807") .longLong = .ok (.int 9223372036854775807)
    coerce (.text "9223372036854775808") .longLong = .ok (.uint 9223372036854775808)

Every other text is an error that says which value was not read.
-/

namespace ShardProxy.Value

/-- The text of a value that holds text; bytes hold the text that they are the encoding of. -/
inductive TextOf : Value → String → Prop
  | text (s : String) : TextOf (.text s) s
  | decimal (s : String) : TextOf (.decimal s) s
  | bytes (s : String) : TextOf (.bytes s.toUTF8.data.toList) s

/-- The value's text writes the integer, with blanks around it or without. -/
def WritesInteger (v : Value) (n : Int) : Prop :=
  ∃ s body, v.TextOf s ∧ Text.Framed body s.toList ∧ Numeral.Writes body n

/-- Texts, decimals and bytes. -/
def IsTextual (v : Value) : Prop :=
  v.representation = .text ∨ v.representation = .decimal ∨ v.representation = .binary

/-! ## The text that is read -/

theorem TextOf.trimmed? {v : Value} {s : String} (h : v.TextOf s) :
    v.trimmed? = some (Text.trim s.toList) := by
  cases h with
  | text => rfl
  | decimal => rfl
  | bytes => rw [Value.trimmed?, text?, Text.fromUTF8?_eq_some_iff.mpr rfl, Option.map_some]

theorem TextOf.isTextual {v : Value} {s : String} (h : v.TextOf s) : v.IsTextual := by
  cases h with
  | text => exact .inl rfl
  | decimal => exact .inr (.inl rfl)
  | bytes => exact .inr (.inr rfl)

theorem IsTextual.ne_null {v : Value} (hv : v.IsTextual) : v ≠ null := by
  rintro rfl
  rcases hv with hv | hv | hv <;> cases hv

theorem IsTextual.toInteger? {v : Value} (hv : v.IsTextual) :
    v.toInteger? = v.trimmed?.bind ofIntegerText? := by
  rcases hv with hv | hv | hv <;> cases v <;> cases hv <;> rfl

theorem exists_textOf {v : Value} (hv : v.IsTextual) {s : List Char} (h : v.trimmed? = some s) :
    ∃ t, v.TextOf t ∧ s = Text.trim t.toList := by
  obtain ⟨t, ht, rfl⟩ := Option.map_eq_some_iff.mp h
  refine ⟨t, ?_, rfl⟩
  rcases hv with hv | hv | hv <;> cases v <;> cases hv
  · cases ht
    exact .text _
  · cases ht
    exact .decimal _
  · rw [← Text.fromUTF8?_eq_some_iff.mp ht]
    exact .bytes t

/-! ## The word that it is read as -/

theorem ofIntegerText?_of_int64 {s : List Char} {n : Int} {k : Int64} (h : Numeral.Writes s n)
    (hk : k.toInt = n) : ofIntegerText? s = some (int k) := by
  subst hk
  rw [ofIntegerText?, Numeral.int64?_eq_some_iff.mpr h]
  rfl

/-- Past the signed words a text has no minus, and the unsigned ones are tried. -/
theorem ofIntegerText?_of_uint64 {s : List Char} {n : Int} {k : UInt64} (h : Numeral.Writes s n)
    (hk : k.toNat = n) (hlow : 2 ^ 63 ≤ n) : ofIntegerText? s = some (uint k) := by
  have hsigned : Numeral.int64? s = none := by
    refine Option.eq_none_iff_forall_ne_some.mpr fun i hi => ?_
    have heq := Numeral.integer?_eq_some_iff.mpr (Numeral.int64?_eq_some_iff.mp hi)
    rw [Numeral.integer?_eq_some_iff.mpr h, Option.some.injEq] at heq
    have hlt := i.toInt_lt
    omega
  have hminus : s.head? ≠ some '-' := by
    intro hs
    cases h with
    | unsigned hds => cases hds.isDigit '-' (List.mem_of_mem_head? hs)
    | plus => cases hs
    | minus => omega
  subst hk
  rw [ofIntegerText?, hsigned, Numeral.uint64?_eq_some_iff.mpr ⟨hminus, h⟩]
  rfl

theorem writes_of_ofIntegerText? {s : List Char} {w : Value} (h : ofIntegerText? s = some w) :
    ∃ n, w.integer? = some n ∧ Numeral.Writes s n := by
  rw [ofIntegerText?, Option.or_eq_some_iff, Option.map_eq_some_iff, Option.map_eq_some_iff] at h
  rcases h with ⟨k, hk, rfl⟩ | ⟨-, k, hk, rfl⟩
  · exact ⟨k.toInt, rfl, Numeral.int64?_eq_some_iff.mp hk⟩
  · exact ⟨k.toNat, rfl, (Numeral.uint64?_eq_some_iff.mp hk).2⟩

theorem range_of_integer? {v : Value} {n : Int} (h : v.integer? = some n) :
    -2 ^ 63 ≤ n ∧ n ≤ 2 ^ 64 - 1 := by
  cases v <;> cases h
  case int k =>
    have hlow := k.le_toInt
    have hhigh := k.toInt_lt
    omega
  case uint k =>
    have hhigh := k.toNat_lt
    omega

/-! ## Coercion -/

theorem isInteger_iff {t : ColumnType} : t.isInteger ↔ t.representation = .integer := by
  rw [ColumnType.isInteger, decide_eq_true_eq]

section

variable {v : Value} {t : ColumnType} (ht : t.isInteger)
include ht

theorem coerce_of_textOf {s : String} (h : v.TextOf s) {w : Value} :
    v.coerce t = .ok w ↔ ofIntegerText? (Text.trim s.toList) = some w := by
  rw [coerce_eq_ok_iff h.isTextual.ne_null, isInteger_iff.mp ht, represent?, h.isTextual.toInteger?,
    h.trimmed?, Option.bind_some]

theorem coerce_of_writes {n : Int} (h : v.WritesInteger n) {w : Value}
    (hw : ∀ body, Numeral.Writes body n → ofIntegerText? body = some w) : v.coerce t = .ok w := by
  obtain ⟨s, body, hs, hframed, hbody⟩ := h
  rw [coerce_of_textOf ht hs, Text.trim_of_framed hframed hbody.isBlank_head hbody.isBlank_getLast]
  exact hw body hbody

theorem writesInteger_of_coerce (hv : v.IsTextual) {w : Value} (h : v.coerce t = .ok w) :
    ∃ n, w.integer? = some n ∧ v.WritesInteger n := by
  rw [coerce_eq_ok_iff hv.ne_null, isInteger_iff.mp ht, represent?, hv.toInteger?] at h
  obtain ⟨body, hbody, hw⟩ := Option.bind_eq_some_iff.mp h
  obtain ⟨s, hs, rfl⟩ := exists_textOf hv hbody
  obtain ⟨n, hn, hwrites⟩ := writes_of_ofIntegerText? hw
  exact ⟨n, hn, s, _, hs, Text.framed_trim _, hwrites⟩

theorem exists_int64 {n : Int} (h : v.WritesInteger n) (hlow : -2 ^ 63 ≤ n) (hhigh : n ≤ 2 ^ 63 - 1) :
    ∃ k : Int64, k.toInt = n ∧ v.coerce t = .ok (int k) := by
  have hk : (Int64.ofInt n).toInt = n := Int64.toInt_ofInt_of_le hlow (by omega)
  exact ⟨_, hk, coerce_of_writes ht h fun _ hbody => ofIntegerText?_of_int64 hbody hk⟩

theorem exists_uint64 {n : Int} (h : v.WritesInteger n) (hlow : 2 ^ 63 ≤ n) (hhigh : n ≤ 2 ^ 64 - 1) :
    ∃ k : UInt64, k.toNat = n ∧ v.coerce t = .ok (uint k) := by
  have hsize : n.toNat < 2 ^ 64 := by omega
  have hk : ((UInt64.ofNat n.toNat).toNat : Int) = n := by
    rw [UInt64.toNat_ofNat_of_lt' hsize]
    omega
  exact ⟨_, hk, coerce_of_writes ht h fun _ hbody => ofIntegerText?_of_uint64 hbody hk hlow⟩

end

/-- A value that holds text is read as an integer exactly if it writes one that a 64-bit word holds, and as
the word that holds it. Every other one is an error that carries the value and the type. -/
theorem coerce_integerText {v : Value} {t : ColumnType} (hv : v.IsTextual) (ht : t.isInteger) :
    ((∃ w, v.coerce t = .ok w) ↔ ∃ n, v.WritesInteger n ∧ -2 ^ 63 ≤ n ∧ n ≤ 2 ^ 64 - 1) ∧
      (∀ n, v.WritesInteger n → -2 ^ 63 ≤ n → n ≤ 2 ^ 63 - 1 →
        ∃ k : Int64, k.toInt = n ∧ v.coerce t = .ok (int k)) ∧
      (∀ n, v.WritesInteger n → 2 ^ 63 ≤ n → n ≤ 2 ^ 64 - 1 →
        ∃ k : UInt64, k.toNat = n ∧ v.coerce t = .ok (uint k)) ∧
      ∀ e, v.coerce t = .error e → e = ⟨v, t⟩ := by
  refine ⟨⟨fun h => ?_, fun h => ?_⟩, fun n => exists_int64 ht, fun n => exists_uint64 ht, fun e => ?_⟩
  · obtain ⟨w, hw⟩ := h
    obtain ⟨n, hn, hwrites⟩ := writesInteger_of_coerce ht hv hw
    exact ⟨n, hwrites, range_of_integer? hn⟩
  · obtain ⟨n, hwrites, hlow, hhigh⟩ := h
    rcases Int.lt_or_le n (2 ^ 63) with hsigned | hunsigned
    · obtain ⟨k, -, hk⟩ := exists_int64 ht hwrites hlow (by omega)
      exact ⟨_, hk⟩
    · obtain ⟨k, -, hk⟩ := exists_uint64 ht hwrites hunsigned hhigh
      exact ⟨_, hk⟩
  · exact eq_of_coerce_eq_error

/-- The greatest integer that is read, with a plus and blanks around it. -/
theorem coerce_integerText_greatest :
    (text " +18446744073709551615 ").IsTextual ∧ ColumnType.longLong.isInteger ∧
      (text " +18446744073709551615 ").WritesInteger 18446744073709551615 ∧
      ∃ k : UInt64, k.toNat = (18446744073709551615 : Int) ∧
        (text " +18446744073709551615 ").coerce .longLong = .ok (uint k) := by
  have hblank : ∀ c ∈ [' '], Text.isBlank c := List.forall_mem_singleton.mpr rfl
  have hwrites : (text " +18446744073709551615 ").WritesInteger 18446744073709551615 :=
    ⟨_, "+18446744073709551615".toList, .text _, ⟨[' '], [' '], hblank, hblank, rfl⟩,
      Numeral.integer?_eq_some_iff.mp (by decide +kernel)⟩
  exact ⟨.inl rfl, rfl, hwrites,
    (coerce_integerText (.inl rfl) rfl).2.2.1 _ hwrites (by omega) (by omega)⟩

end ShardProxy.Value
