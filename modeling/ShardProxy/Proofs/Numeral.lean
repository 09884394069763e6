import Mathlib.Algebra.Ring.Int.Defs
import Mathlib.Data.List.Induction
import ShardProxy.Numeral.Integer
import ShardProxy.Text.Blank

/-!
# Integers and the texts that write them

A text writes an integer if it is an optional sign and one or more digits, and the integer is the one that
the digits stand for. Reading finds exactly that integer, of any size, and what is printed writes the
integer that it was printed from:

    integer? s = some n   ↔   Writes s n                                              (integer?_eq_some_iff)
    Writes (toString n).toList n                                                        (writes_toString)

A 64-bit word is an integer of its range and no other.
-/

namespace ShardProxy.Numeral

/-! ## What digits and signs mean -/

/-- The digits of a number, the last of which counts once and the others ten times. -/
inductive Digits : List Char → Nat → Prop
  | one {d : Nat} : d < 10 → Digits [d.digitChar] d
  | more {ds : List Char} {n d : Nat} : Digits ds n → d < 10 → Digits (ds ++ [d.digitChar]) (10 * n + d)

/-- The texts of an integer. -/
inductive Writes : List Char → Int → Prop
  | unsigned {ds : List Char} {n : Nat} : Digits ds n → Writes ds n
  | plus {ds : List Char} {n : Nat} : Digits ds n → Writes ('+' :: ds) n
  | minus {ds : List Char} {n : Nat} : Digits ds n → Writes ('-' :: ds) (-n)

/-! ## Reading -/

theorem exists_digitChar {c : Char} (h : c.isDigit) : ∃ d, d < 10 ∧ c = d.digitChar := by
  obtain ⟨hlow, hhigh⟩ := Char.isDigit_iff_toNat.mp h
  have hzero : '0'.toNat = 48 := rfl
  have hnine : '9'.toNat = 57 := rfl
  refine ⟨c.toNat - 48, by omega, Char.toNat_inj.mp ?_⟩
  rw [Nat.toNat_digitChar_of_lt_ten (by omega)]
  omega

theorem digitsValue_append (ds : List Char) {d : Nat} (hd : d < 10) :
    digitsValue (ds ++ [d.digitChar]) = 10 * digitsValue ds + d := by
  have hvalue : d.digitChar.toNat - '0'.toNat = d := Nat.toNat_digitChar_sub_48_of_lt_ten hd
  rw [digitsValue, List.foldl_append, List.foldl_cons, List.foldl_nil, hvalue, digitsValue]

theorem Digits.isDigit {ds : List Char} {n : Nat} (h : Digits ds n) : ∀ c ∈ ds, c.isDigit := by
  have hdigit : ∀ {d : Nat}, d < 10 → d.digitChar.isDigit := fun hd => by
    rw [Nat.isDigit_digitChar, decide_eq_true hd]
  induction h with
  | one hd => simpa using hdigit hd
  | more _ hd ih =>
    intro c hc
    rcases List.mem_append.mp hc with hc | hc
    · exact ih c hc
    · rw [List.mem_singleton.mp hc]
      exact hdigit hd

theorem Digits.ne_nil {ds : List Char} {n : Nat} (h : Digits ds n) : ds ≠ [] := by
  cases h <;> simp

theorem Digits.value_eq {ds : List Char} {n : Nat} (h : Digits ds n) : digitsValue ds = n := by
  induction h with
  | one hd => simpa [digitsValue] using digitsValue_append [] hd
  | more _ hd ih => rw [digitsValue_append _ hd, ih]

/-- One digit after the other, the number is worked out from the front. -/
theorem digits_digitsValue {ds : List Char} (hne : ds ≠ []) (h : ∀ c ∈ ds, c.isDigit) :
    Digits ds (digitsValue ds) := by
  induction ds using List.reverseRecOn with
  | nil => exact absurd rfl hne
  | append_singleton ds c ih =>
    obtain ⟨d, hd, rfl⟩ := exists_digitChar (h c (by simp))
    rw [digitsValue_append ds hd]
    by_cases hds : ds = []
    · subst hds
      simpa [digitsValue] using Digits.one hd
    · exact .more (ih hds fun c hc => h c (List.mem_append_left _ hc)) hd

theorem natural?_eq_some_iff_digits {s : List Char} {n : Nat} : natural? s = some n ↔ Digits s n := by
  rw [natural?_eq_some_iff]
  constructor
  · rintro ⟨hne, hdigits, rfl⟩
    exact digits_digitsValue hne hdigits
  · intro h
    exact ⟨h.ne_nil, h.isDigit, h.value_eq⟩

/-- A sign is no digit. -/
theorem not_digits_cons {c : Char} (hc : c.isDigit = false) {ds : List Char} {n : Nat} :
    ¬ Digits (c :: ds) n := fun h => by
  rw [h.isDigit c List.mem_cons_self] at hc
  cases hc

/-- Exactly the texts of an integer are read, as that integer. -/
theorem integer?_eq_some_iff {s : List Char} {n : Int} : integer? s = some n ↔ Writes s n := by
  constructor
  · intro h
    unfold integer? at h
    split at h
    · obtain ⟨k, hk, rfl⟩ := Option.map_eq_some_iff.mp h
      exact .plus (natural?_eq_some_iff_digits.mp hk)
    · obtain ⟨_, hlifted, rfl⟩ := Option.map_eq_some_iff.mp h
      obtain ⟨k, hk, hpure⟩ := Option.bind_eq_some_iff.mp hlifted
      cases hpure
      exact .minus (natural?_eq_some_iff_digits.mp hk)
    · obtain ⟨k, hk, rfl⟩ := Option.map_eq_some_iff.mp h
      exact .unsigned (natural?_eq_some_iff_digits.mp hk)
  · intro h
    cases h with
    | plus hk => simp [integer?, natural?_eq_some_iff_digits.mpr hk]
    | minus hk => simp [integer?, natural?_eq_some_iff_digits.mpr hk]
    | unsigned hk =>
      unfold integer?
      split
      · exact absurd hk (not_digits_cons rfl)
      · exact absurd hk (not_digits_cons rfl)
      · simp [natural?_eq_some_iff_digits.mpr hk]

/-! ## Printing -/

theorem digits_toDigits (n : Nat) : Digits (Nat.toDigits 10 n) n := by
  have hvalue : digitsValue (Nat.toDigits 10 n) = n := Nat.ofDigitChars_ten_toDigits
  have hdigits := digits_digitsValue (Nat.toDigits_ne_nil (n := n) (b := 10)) fun c hc =>
    Nat.isDigit_of_mem_toDigits (by decide) (by decide) hc
  rwa [hvalue] at hdigits

theorem writes_toString_nat (n : Nat) : Writes (toString n).toList n := by
  rw [Nat.toString_eq_repr, Nat.toList_repr]
  exact .unsigned (digits_toDigits n)

theorem writes_toString (n : Int) : Writes (toString n).toList n := by
  rw [Int.toString_eq_repr, Int.repr_eq_if]
  split
  · next h =>
    rw [Nat.toList_repr, ← Int.toNat_of_nonneg h]
    exact .unsigned (digits_toDigits _)
  · next h =>
    rw [String.toList_append, Nat.toList_repr]
    have hminus := Writes.minus (digits_toDigits (-n).toNat)
    rw [Int.toNat_of_nonneg (by omega), Int.neg_neg] at hminus
    exact hminus

/-! ## Blanks -/

/-- Digits and signs are no blanks. -/
theorem isBlank_of_isDigit {c : Char} (h : c.isDigit) : Text.isBlank c = false := by
  obtain ⟨d, hd, rfl⟩ := exists_digitChar h
  revert d
  decide

theorem Writes.isBlank_head {s : List Char} {n : Int} (h : Writes s n) :
    ∀ c ∈ s.head?, Text.isBlank c = false := by
  intro c hc
  cases h with
  | unsigned hds => exact isBlank_of_isDigit (hds.isDigit c (List.mem_of_mem_head? hc))
  | plus => cases hc; decide
  | minus => cases hc; decide

theorem Writes.isBlank_getLast {s : List Char} {n : Int} (h : Writes s n) :
    ∀ c ∈ s.getLast?, Text.isBlank c = false := by
  have hdigits : ∀ {ds : List Char} {k : Nat}, Digits ds k → ∀ c ∈ ds.getLast?, Text.isBlank c = false :=
    fun hds c hc => isBlank_of_isDigit (hds.isDigit c (List.mem_of_getLast? hc))
  cases h with
  | unsigned hds => exact hdigits hds
  | plus hds => rw [List.getLast?_cons_of_ne_nil hds.ne_nil]; exact hdigits hds
  | minus hds => rw [List.getLast?_cons_of_ne_nil hds.ne_nil]; exact hdigits hds

/-! ## Words -/

theorem toInt64?_eq_some_iff {n : Int} {k : Int64} : toInt64? n = some k ↔ k.toInt = n := by
  unfold toInt64?
  constructor
  · intro h
    split at h
    · next hrange =>
      cases h
      exact Int64.toInt_ofInt_of_le hrange.1 (Int.lt_of_le_sub_one hrange.2)
    · cases h
  · rintro rfl
    rw [if_pos ⟨k.minValue_le_toInt, k.toInt_le⟩, Int64.ofInt_toInt]

theorem toUInt64?_eq_some_iff {n : Nat} {k : UInt64} : toUInt64? n = some k ↔ k.toNat = n := by
  unfold toUInt64?
  constructor
  · intro h
    split at h
    · next hrange =>
      cases h
      exact UInt64.toNat_ofNat_of_lt hrange
    · cases h
  · rintro rfl
    rw [if_pos k.toNat_lt, UInt64.ofNat_toNat]

theorem int64?_eq_some_iff {s : List Char} {k : Int64} : int64? s = some k ↔ Writes s k.toInt := by
  rw [int64?, Option.bind_eq_some_iff]
  constructor
  · rintro ⟨n, hn, hk⟩
    rw [toInt64?_eq_some_iff.mp hk]
    exact integer?_eq_some_iff.mp hn
  · intro h
    exact ⟨_, integer?_eq_some_iff.mpr h, toInt64?_eq_some_iff.mpr rfl⟩

/-- A minus is not taken, not even in front of a zero. -/
theorem uint64?_eq_some_iff {s : List Char} {k : UInt64} :
    uint64? s = some k ↔ s.head? ≠ some '-' ∧ Writes s k.toNat := by
  unfold uint64?
  constructor
  · intro h
    obtain ⟨n, hn, hk⟩ := Option.bind_eq_some_iff.mp h
    rw [toUInt64?_eq_some_iff.mp hk]
    rw [natural?_eq_some_iff_digits] at hn
    split at hn
    · exact ⟨by simp, .plus hn⟩
    · refine ⟨fun hminus => ?_, .unsigned hn⟩
      cases hn.isDigit '-' (List.mem_of_mem_head? hminus)
  · rintro ⟨hminus, h⟩
    rw [Option.bind_eq_some_iff]
    refine ⟨k.toNat, natural?_eq_some_iff_digits.mpr ?_, toUInt64?_eq_some_iff.mpr rfl⟩
    generalize hn : (k.toNat : Int) = n at h
    cases h with
    | plus hds => exact Int.ofNat.inj hn ▸ hds
    | minus => exact absurd rfl hminus
    | unsigned hds =>
      rw [Int.ofNat.inj hn]
      split
      · exact absurd hds (not_digits_cons rfl)
      · exact hds

end ShardProxy.Numeral
