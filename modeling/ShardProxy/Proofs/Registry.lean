import Mathlib.Data.List.Induction
import Mathlib.Data.List.Nodup
import Mathlib.Data.Prod.Basic
import ShardProxy.Registry

/-!
# A registry and its requests

A registry serves one request after the other. The `k`-th number that it issues is `k` more than the first,
counted in 32 bits, whatever was forgotten in between (`eq_of_getElem?_issued`); a number that stands for a
text was issued before (`mem_issued_of_sql?`). As long as no number is issued that still stands for a
text, the numbers of the texts and the texts of the numbers are inverse to each other:

    r.id? sql = some id   ↔   r.sql? id = some sql                                (inverse_after)

From the empty registry on this lasts, at any rate, until all 32-bit words have been issued.
-/

namespace ShardProxy.Registry

/-! ## Requests -/

/-- What a registry is asked for. -/
inductive Request
  | register (sql : String)
  | look (id : UInt32)
  | remove (id : UInt32)
deriving DecidableEq

inductive Reply
  | number (id : UInt32)
  | text (sql? : Option String)
  | removed (found : Bool)
deriving DecidableEq

def serve (r : Registry) : Request → Reply × Registry
  | .register sql => (.number (r.register sql).1, (r.register sql).2)
  | .look id => (.text (r.sql? id), r)
  | .remove id => (.removed (r.remove id).1, (r.remove id).2)

/-- The registry behind requests. -/
def after (r : Registry) (requests : List Request) : Registry :=
  requests.foldl (fun r q => (r.serve q).2) r

/-- The number that is issued for a request: the next one for a text that has none. -/
def issue? (r : Registry) : Request → Option UInt32
  | .register sql => if r.id? sql = none then some r.nextId else none
  | _ => none

/-- The numbers that are issued for requests, in order. -/
def issued (r : Registry) : List Request → List UInt32
  | [] => []
  | q :: requests => (r.issue? q).toList ++ (r.serve q).2.issued requests

/-- How a request is answered, and what it leaves of the texts and the numbers. -/
inductive Serves (r : Registry) : Request → Reply → Registry → Prop
  | known {sql : String} {id : UInt32} :
      r.id? sql = some id → Serves r (.register sql) (.number id) r
  | new {sql : String} {r' : Registry} :
      r.id? sql = none → r'.nextId = r.nextId + 1 →
      (∀ t, r'.id? t = if t = sql then some r.nextId else r.id? t) →
      (∀ i, r'.sql? i = if i = r.nextId then some sql else r.sql? i) →
        Serves r (.register sql) (.number r.nextId) r'
  | looked {id : UInt32} : Serves r (.look id) (.text (r.sql? id)) r
  | removed {sql : String} {id : UInt32} {r' : Registry} :
      r.sql? id = some sql → r'.nextId = r.nextId →
      (∀ t, r'.id? t = if t = sql then none else r.id? t) →
      (∀ i, r'.sql? i = if i = id then none else r.sql? i) →
        Serves r (.remove id) (.removed true) r'
  | absent {id : UInt32} : r.sql? id = none → Serves r (.remove id) (.removed false) r

variable {r : Registry} {q : Request} {requests : List Request}

theorem serves (r : Registry) (q : Request) : Serves r q (r.serve q).1 (r.serve q).2 := by
  cases q with
  | register sql =>
    cases h : r.id? sql with
    | some id =>
      simp only [serve, register_of_known h]
      exact .known h
    | none =>
      have hnumber : (r.register sql).1 = r.nextId := by rw [register_of_unknown h]
      simp only [serve, hnumber]
      exact .new h (by rw [register_of_unknown h]) (id?_register h) (sql?_register h)
  | look id => exact .looked
  | remove id =>
    cases h : r.sql? id with
    | none =>
      simp only [serve, remove_of_absent h]
      exact .absent h
    | some sql =>
      have hfound : (r.remove id).1 = true := by rw [remove_of_present h]
      simp only [serve, hfound]
      exact .removed h (by rw [remove_of_present h]) (id?_remove h) (sql?_remove h)

theorem after_concat (r : Registry) (requests : List Request) (q : Request) :
    r.after (requests ++ [q]) = ((r.after requests).serve q).2 := List.foldl_concat _ _ _ _

theorem issued_concat (r : Registry) (requests : List Request) (q : Request) :
    r.issued (requests ++ [q]) = r.issued requests ++ ((r.after requests).issue? q).toList := by
  induction requests generalizing r with
  | nil => exact List.append_nil _
  | cons q' requests ih => rw [List.cons_append, issued, ih, issued, List.append_assoc]; rfl

/-- Fewer requests make for fewer numbers. -/
theorem issued_prefix (r : Registry) {done : List Request} (h : done <+: requests) :
    r.issued done <+: r.issued requests := by
  obtain ⟨rest, rfl⟩ := h
  induction rest using List.reverseRecOn with
  | nil => exact (List.append_nil done).symm ▸ List.prefix_refl (r.issued done)
  | append_singleton rest q ih =>
    rw [← List.append_assoc, issued_concat]
    exact ih.trans (List.prefix_append _ _)

/-! ## The numbers that are issued -/

/-- The counter goes up with each number that is issued, and with nothing else. -/
theorem nextId_serve (r : Registry) (q : Request) :
    r.issue? q = none ∧ (r.serve q).2.nextId = r.nextId ∨
      r.issue? q = some r.nextId ∧ (r.serve q).2.nextId = r.nextId + 1 := by
  have hserves := r.serves q
  generalize (r.serve q).1 = reply, (r.serve q).2 = r' at hserves ⊢
  cases hserves with
  | known h => exact .inl ⟨by simp [issue?, h], rfl⟩
  | new h hnext => exact .inr ⟨by simp [issue?, h], hnext⟩
  | looked | absent => exact .inl ⟨rfl, rfl⟩
  | removed _ hnext => exact .inl ⟨rfl, hnext⟩

theorem nextId_after (r : Registry) (requests : List Request) :
    (r.after requests).nextId = r.nextId + .ofNat (r.issued requests).length := by
  induction requests using List.reverseRecOn with
  | nil => exact (UInt32.add_zero _).symm
  | append_singleton requests q ih =>
    rw [after_concat, issued_concat, List.length_append]
    rcases (r.after requests).nextId_serve q with ⟨hissue, hnext⟩ | ⟨hissue, hnext⟩
    · rw [hnext, hissue, ih]
      rfl
    · rw [hnext, hissue, ih, UInt32.add_assoc, UInt32.ofNat_add]
      rfl

/-- The number that is issued behind a run counts the numbers that were issued in it. -/
theorem eq_of_issue? {id : UInt32} (h : (r.after requests).issue? q = some id) :
    id = r.nextId + .ofNat (r.issued requests).length := by
  rcases (r.after requests).nextId_serve q with ⟨hnone, -⟩ | ⟨hsome, -⟩
  · rw [hnone] at h
    cases h
  · rw [hsome, Option.some.injEq, nextId_after] at h
    exact h.symm

theorem eq_of_getElem?_issued {k : Nat} {id : UInt32} (h : (r.issued requests)[k]? = some id) :
    id = r.nextId + .ofNat k := by
  induction requests using List.reverseRecOn with
  | nil => cases h
  | append_singleton requests q ih =>
    rw [issued_concat] at h
    cases hissue : (r.after requests).issue? q with
    | none =>
      rw [hissue, Option.toList_none, List.append_nil] at h
      exact ih h
    | some last =>
      rw [hissue, Option.toList_some] at h
      by_cases hk : k < (r.issued requests).length
      · rw [List.getElem?_append_left hk] at h
        exact ih h
      · have hlen := (List.getElem?_eq_some_iff.mp h).1
        rw [List.length_append, List.length_singleton] at hlen
        obtain rfl : k = (r.issued requests).length := by omega
        rw [List.getElem?_concat_length, Option.some.injEq] at h
        rw [← h]
        exact eq_of_issue? hissue

/-- A number that stands for a text did so from the beginning, or was issued. -/
theorem mem_issued_of_sql? {id : UInt32} {sql : String} (h : (r.after requests).sql? id = some sql) :
    (∃ sql, r.sql? id = some sql) ∨ id ∈ r.issued requests := by
  induction requests using List.reverseRecOn generalizing sql with
  | nil => exact .inl ⟨sql, h⟩
  | append_singleton requests q ih =>
    have hserves := (r.after requests).serves q
    have hissue := (r.after requests).nextId_serve q
    rw [after_concat] at h
    rw [issued_concat, List.mem_append, ← or_assoc]
    generalize ((r.after requests).serve q).1 = reply, ((r.after requests).serve q).2 = r' at *
    cases hserves with
    | known | looked | absent => exact .inl (ih h)
    | new hsql hnext _ htexts =>
      rw [htexts] at h
      split at h
      · next hid => exact .inr (by simp [issue?, hsql, hid])
      · exact .inl (ih h)
    | removed _ _ _ htexts =>
      rw [htexts] at h
      split at h
      · cases h
      · exact .inl (ih h)

/-- A number that was issued comes again only when `2 ^ 32` numbers have been issued since. -/
theorem add_size_le_of_issued {k n : Nat} {id : UInt32} (hk : (r.issued requests)[k]? = some id)
    (hn : id = r.nextId + .ofNat n) (hlt : k < n) : k + UInt32.size ≤ n := by
  have hnat := congrArg UInt32.toNat (hn.symm.trans (eq_of_getElem?_issued hk))
  simp only [UInt32.toNat_add, UInt32.toNat_ofNat'] at hnat
  have hsize : UInt32.size = 2 ^ 32 := rfl
  omega

/-! ## Texts and numbers -/

/-- Each text has the number that stands for it. -/
def Inverse (r : Registry) : Prop := ∀ sql id, r.id? sql = some id ↔ r.sql? id = some sql

/-- A number is issued that still stands for a text. -/
def Reissues (r : Registry) (q : Request) : Prop :=
  ∃ id sql, r.issue? q = some id ∧ r.sql? id = some sql

/-- No request of a run makes the registry do so. -/
def NeverReissues (r : Registry) (requests : List Request) : Prop :=
  ∀ done q, done ++ [q] <+: requests → ¬ (r.after done).Reissues q

theorem NeverReissues.mono {done : List Request} (h : r.NeverReissues requests) (hd : done <+: requests) :
    r.NeverReissues done := fun done' q h' => h done' q (h'.trans hd)

theorem inverse_empty : empty.Inverse := fun _ _ => iff_of_false nofun nofun

theorem Inverse.serve (h : r.Inverse) (hq : ¬ r.Reissues q) : (r.serve q).2.Inverse := by
  have hserves := r.serves q
  generalize (r.serve q).1 = reply, (r.serve q).2 = r' at hserves ⊢
  cases hserves with
  | known | looked | absent => exact h
  | @new sql _ hsql _ hnumbers htexts =>
    have hfree : ∀ t, r.sql? r.nextId ≠ some t := fun t ht =>
      hq ⟨r.nextId, t, by simp [issue?, hsql], ht⟩
    intro t i
    rw [hnumbers, htexts]
    by_cases ht : t = sql <;> by_cases hi : i = r.nextId
    · simp [ht, hi]
    · have := h sql i
      simp [ht, hi, Ne.symm hi, ← this, hsql]
    · have := hfree t
      simp [ht, hi, Ne.symm ht, h t, this]
    · simp [ht, hi, h t i]
  | @removed sql id _ hid _ hnumbers htexts =>
    have hsql : r.id? sql = some id := (h sql id).mpr hid
    intro t i
    rw [hnumbers, htexts]
    by_cases ht : t = sql <;> by_cases hi : i = id
    · simp [ht, hi]
    · have := h sql i
      simp [ht, hi, Ne.symm hi, ← this, hsql]
    · have := h t id
      simp [ht, hi, this, hid, Ne.symm ht]
    · simp [ht, hi, h t i]

/-- As long as no number is issued that still stands for a text, texts and numbers agree. -/
theorem inverse_after (hr : r.Inverse) (h : r.NeverReissues requests) : (r.after requests).Inverse := by
  induction requests using List.reverseRecOn with
  | nil => exact hr
  | append_singleton requests q ih =>
    rw [after_concat]
    exact (ih (h.mono (List.prefix_append _ _))).serve (h requests q (List.prefix_refl _))

/-- A number that is issued again was issued `2 ^ 32` numbers ago. -/
theorem exists_of_reissues {done : List Request} (h : (empty.after done).Reissues q) :
    ∃ k id, (empty.issued done)[k]? = some id ∧ (empty.after done).issue? q = some id ∧
      k + UInt32.size ≤ (empty.issued done).length := by
  obtain ⟨id, sql, hissue, hsql⟩ := h
  have hmem : id ∈ empty.issued done := (mem_issued_of_sql? hsql).resolve_left nofun
  obtain ⟨k, hk⟩ := List.mem_iff_getElem?.mp hmem
  have hlt := (List.getElem?_eq_some_iff.mp hk).1
  exact ⟨k, id, hk, hissue, add_size_le_of_issued hk (eq_of_issue? hissue) hlt⟩

/-! ## Entries -/

/-- No text and no number has two entries. -/
structure Keyed (r : Registry) : Prop where
  texts : (r.ids.map (·.1)).Nodup
  numbers : (r.statements.map (·.1)).Nodup

theorem nodup_filter {α β : Type} {entries : List (α × β)} (h : (entries.map (·.1)).Nodup)
    (p : α × β → Bool) : ((entries.filter p).map (·.1)).Nodup :=
  (List.filter_sublist.map _).nodup h

theorem nodup_put {α β : Type} [BEq α] [LawfulBEq α] {entries : List (α × β)}
    (h : (entries.map (·.1)).Nodup) (key : α) (value : β) :
    ((put key value entries).map (·.1)).Nodup := by
  rw [put, List.map_append, List.nodup_append]
  refine ⟨nodup_filter h _, by simp, fun a ha b hb => ?_⟩
  obtain ⟨e, he, rfl⟩ := List.mem_map.mp ha
  obtain rfl : b = key := by simpa using hb
  simpa using (List.mem_filter.mp he).2

theorem Keyed.serve (h : r.Keyed) (q : Request) : (r.serve q).2.Keyed := by
  cases q with
  | register sql =>
    change (r.register sql).2.Keyed
    cases hid : r.id? sql with
    | some id => rwa [register_of_known hid]
    | none =>
      rw [register_of_unknown hid]
      exact ⟨nodup_put h.texts _ _, nodup_put h.numbers _ _⟩
  | look id => exact h
  | remove id =>
    change (r.remove id).2.Keyed
    cases hsql : r.sql? id with
    | none => rwa [remove_of_absent hsql]
    | some sql =>
      rw [remove_of_present hsql]
      exact ⟨nodup_filter h.texts _, nodup_filter h.numbers _⟩

theorem keyed_after (requests : List Request) : (empty.after requests).Keyed := by
  induction requests using List.reverseRecOn with
  | nil => exact ⟨.nil, .nil⟩
  | append_singleton requests q ih =>
    rw [after_concat]
    exact ih.serve q

theorem lookup_eq_some_iff_mem {α β : Type} [BEq α] [LawfulBEq α] {entries : List (α × β)}
    (h : (entries.map (·.1)).Nodup) {key : α} {value : β} :
    entries.lookup key = some value ↔ (key, value) ∈ entries := by
  rw [List.lookup_eq_some_iff]
  constructor
  · rintro ⟨front, behind, rfl, -⟩
    simp
  · intro hmem
    obtain ⟨front, behind, rfl⟩ := List.append_of_mem hmem
    refine ⟨front, behind, rfl, fun e he => ?_⟩
    rw [List.map_append, List.nodup_append] at h
    simpa [bne_iff_ne] using (h.2.2 e.1 (List.mem_map_of_mem he) key (by simp)).symm

/-- There are as many texts as numbers. -/
theorem length_ids_of_inverse (h : r.Inverse) (hkeyed : r.Keyed) : r.ids.length = r.size := by
  have hperm : (r.ids.map Prod.swap).Perm r.statements := by
    have hids : (r.ids.map Prod.swap).Nodup :=
      (List.Nodup.of_map _ hkeyed.texts).map Prod.swap_injective
    refine (List.perm_ext_iff_of_nodup hids (List.Nodup.of_map _ hkeyed.numbers)).mpr ?_
    rintro ⟨id, sql⟩
    rw [← lookup_eq_some_iff_mem hkeyed.numbers]
    change _ ↔ r.sql? id = some sql
    rw [← h sql id, id?, lookup_eq_some_iff_mem hkeyed.texts, List.mem_map]
    constructor
    · rintro ⟨⟨s, i⟩, hmem, hswap⟩
      cases hswap
      exact hmem
    · exact fun hmem => ⟨(sql, id), hmem, rfl⟩
  rw [size, ← hperm.length_eq, List.length_map]

/-! ## The whole life of a registry -/

/-- Texts and numbers, one of each for each of the others. -/
structure Bijective (r : Registry) : Prop where
  inverse : ∀ sql id, r.id? sql = some id ↔ r.sql? id = some sql
  texts : (r.ids.map (·.1)).Nodup
  numbers : (r.statements.map (·.1)).Nodup
  size : r.ids.length = r.size

/-- While fewer than `2 ^ 32 - 1` numbers are issued, the registry is a bijection of texts and numbers
behind every request. A text that has a number keeps it and changes nothing; any other gets a number
that was never issued before and is not zero. A number is forgotten with its text if it has one, and
nothing else is. -/
theorem bijective_of_run (h : (empty.issued requests).length < UInt32.size - 1) :
    (∀ done, done <+: requests → (empty.after done).Bijective) ∧
      ∀ done q, done ++ [q] <+: requests →
        (empty.after done).Serves q ((empty.after done).serve q).1 (empty.after (done ++ [q])) ∧
        ∀ id, (empty.after done).issue? q = some id → id ∉ empty.issued done ∧ id ≠ 0 := by
  have hlength : ∀ {done}, done <+: requests → (empty.issued done).length < UInt32.size - 1 := fun hd =>
    Nat.lt_of_le_of_lt (empty.issued_prefix hd).length_le h
  have hnever : empty.NeverReissues requests := by
    intro done q hd hreissues
    obtain ⟨k, id, -, -, hk⟩ := exists_of_reissues hreissues
    have := hlength ((List.prefix_append _ _).trans hd)
    omega
  constructor
  · intro done hd
    have hinverse := inverse_after inverse_empty (hnever.mono hd)
    have hkeyed := keyed_after done
    exact ⟨hinverse, hkeyed.texts, hkeyed.numbers, length_ids_of_inverse hinverse hkeyed⟩
  · intro done q hd
    have hbefore := hlength ((List.prefix_append _ _).trans hd)
    refine ⟨by rw [after_concat]; exact serves _ q, fun id hissue => ?_⟩
    have hid : id = 1 + .ofNat (empty.issued done).length := eq_of_issue? hissue
    constructor
    · intro hmem
      obtain ⟨k, hk⟩ := List.mem_iff_getElem?.mp hmem
      have := add_size_le_of_issued hk hid (List.getElem?_eq_some_iff.mp hk).1
      omega
    · intro hzero
      have hnat := congrArg UInt32.toNat (hid.symm.trans hzero)
      simp only [UInt32.toNat_add, UInt32.toNat_ofNat', UInt32.toNat_one, UInt32.toNat_zero] at hnat
      have hsize : UInt32.size = 2 ^ 32 := rfl
      omega

/-- A text is forgotten between two others, and registered anew. -/
def forgetting : List Request :=
  [.register "a", .register "b", .register "a", .remove 1, .look 1, .register "a"]

/-- It does not get its old number back. -/
theorem bijective_of_run_forgetting :
    (empty.issued forgetting).length < UInt32.size - 1 ∧ (empty.after forgetting).Bijective ∧
      (empty.after (forgetting.take 5)).Serves (.register "a") (.number 3) (empty.after forgetting) ∧
      3 ∉ empty.issued (forgetting.take 5) := by
  have hlength : (empty.issued forgetting).length < UInt32.size - 1 := by decide +kernel
  obtain ⟨hbijective, hserves⟩ := bijective_of_run hlength
  have hlast : forgetting.take 5 ++ [.register "a"] <+: forgetting := List.prefix_refl _
  obtain ⟨hserved, hfresh⟩ := hserves _ _ hlast
  exact ⟨hlength, hbijective _ (List.prefix_refl _), hserved, (hfresh 3 (by decide +kernel)).1⟩

end ShardProxy.Registry
