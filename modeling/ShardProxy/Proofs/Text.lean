import Mathlib.Data.List.TakeWhile
import ShardProxy.Text.Blank

/-!
# Text between blanks, and text as bytes

A text that has blanks around it, and nothing else, is trimmed to what stands between them:

    Framed body s,  no blank at the ends of body   →   trim s = body          (trim_of_framed)

Bytes are the text that they are the encoding of, and only such bytes are a text
(`fromUTF8?_eq_some_iff`).
-/

namespace ShardProxy.Text

/-! ## Blanks -/

/-- `s` is `body` with blanks in front and behind. -/
def Framed (body s : List Char) : Prop :=
  ∃ front back : List Char,
    (∀ c ∈ front, isBlank c) ∧ (∀ c ∈ back, isBlank c) ∧ s = front ++ body ++ back

theorem framed_self (s : List Char) : Framed s s :=
  ⟨[], [], nofun, nofun, by rw [List.nil_append, List.append_nil]⟩

theorem framed_trim (s : List Char) : Framed (trim s) s := by
  let rest := s.dropWhile isBlank
  refine ⟨s.takeWhile isBlank, (rest.reverse.takeWhile isBlank).reverse, fun c hc => ?_, fun c hc => ?_, ?_⟩
  · exact List.mem_takeWhile_imp hc
  · exact List.mem_takeWhile_imp (List.mem_reverse.mp hc)
  · have hrest : trim s ++ (rest.reverse.takeWhile isBlank).reverse = rest := by
      rw [trim, ← List.reverse_append, List.takeWhile_append_dropWhile, List.reverse_reverse]
    rw [List.append_assoc, hrest, List.takeWhile_append_dropWhile]

/-- Trimming takes away all the blanks that stand around a text without blanks at its ends. -/
theorem trim_of_framed {body s : List Char} (h : Framed body s)
    (hhead : ∀ c ∈ body.head?, isBlank c = false) (hlast : ∀ c ∈ body.getLast?, isBlank c = false) :
    trim s = body := by
  obtain ⟨front, back, hfront, hback, rfl⟩ := h
  have hbehind : ∀ c ∈ back.reverse, isBlank c := fun c hc => hback c (List.mem_reverse.mp hc)
  rw [trim, List.append_assoc, List.dropWhile_append_of_pos hfront]
  cases body with
  | nil =>
    rw [List.nil_append, List.dropWhile_eq_nil_iff.mpr hback]
    rfl
  | cons c body =>
    have hc : ¬ isBlank c := Bool.eq_false_iff.mp (hhead c rfl)
    have hself := trim_eq_self (c :: body) hhead hlast
    rw [trim, List.dropWhile_cons_of_neg hc] at hself
    rw [List.cons_append, List.dropWhile_cons_of_neg hc, ← List.cons_append, List.reverse_append,
      List.dropWhile_append_of_pos hbehind]
    exact hself

/-! ## Bytes -/

/-- Bytes are read as the text that they encode. -/
theorem fromUTF8?_eq_some_iff {b : List UInt8} {s : String} :
    String.fromUTF8? ⟨b.toArray⟩ = some s ↔ s.toUTF8.data.toList = b := by
  unfold String.fromUTF8?
  constructor
  · intro h
    split at h
    · cases h
      rfl
    · cases h
  · rintro rfl
    have hvalid : ByteArray.IsValidUTF8 ⟨s.toUTF8.data.toList.toArray⟩ := s.isValidUTF8
    rw [dif_pos hvalid]
    rfl

/-- There is such a text if the bytes are the encoding of characters. -/
theorem isSome_fromUTF8?_iff {b : List UInt8} :
    (∃ s, String.fromUTF8? ⟨b.toArray⟩ = some s) ↔ ByteArray.IsValidUTF8 ⟨b.toArray⟩ := by
  unfold String.fromUTF8?
  split
  · next h => exact iff_of_true ⟨_, rfl⟩ h
  · next h => exact iff_of_false nofun h

end ShardProxy.Text
