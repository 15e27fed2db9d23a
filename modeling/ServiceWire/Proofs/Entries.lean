import ServiceWire.Entries
import Mathlib

/-!
# Mappings with distinct keys

Where all keys are distinct, an entry is found under its key and a new key goes to the end. So the
mapping that a sequence of pairs with distinct keys describes is the sequence itself.
-/

namespace ServiceWire.Entries

variable {κ ν : Type} [BEq κ]

theorem put_eq_append {key : κ} {entries : List (κ × ν)} (value : ν)
    (h : ∀ p ∈ entries, (p.1 == key) = false) :
    put key value entries = entries ++ [(key, value)] := by
  induction entries with
  | nil => rfl
  | cons p rest ih =>
    obtain ⟨k, v⟩ := p
    have hk : (k == key) = false := h (k, v) (List.mem_cons_self ..)
    rw [put, hk, if_neg Bool.false_ne_true, ih fun q hq => h q (List.mem_cons_of_mem _ hq),
      List.cons_append]

/-- A value is put under a key or under one that counts as the same. -/
theorem mem_put {entries : List (κ × ν)} {key : κ} {value : ν} {p : κ × ν}
    (h : p ∈ put key value entries) :
    p ∈ entries ∨ p.2 = value ∧
      (p.1 = key ∨ (p.1 == key) = true ∧ p.1 ∈ entries.map Prod.fst) := by
  induction entries with
  | nil =>
    obtain rfl := List.mem_singleton.mp h
    exact .inr ⟨rfl, .inl rfl⟩
  | cons q rest ih =>
    obtain ⟨k, v⟩ := q
    rw [put] at h
    split at h
    · rename_i hk
      rcases List.mem_cons.mp h with rfl | h
      · exact .inr ⟨rfl, .inr ⟨hk, List.mem_cons_self ..⟩⟩
      · exact .inl (List.mem_cons_of_mem _ h)
    · rcases List.mem_cons.mp h with rfl | h
      · exact .inl (List.mem_cons_self ..)
      · rcases ih h with h | ⟨hv, h | ⟨hk, h⟩⟩
        · exact .inl (List.mem_cons_of_mem _ h)
        · exact .inr ⟨hv, .inl h⟩
        · exact .inr ⟨hv, .inr ⟨hk, List.mem_cons_of_mem _ h⟩⟩

theorem exists_mem_put (key : κ) (value : ν) (entries : List (κ × ν)) :
    ∃ p ∈ put key value entries, p.1 = key ∨ (p.1 == key) = true := by
  induction entries with
  | nil => exact ⟨_, List.mem_singleton.mpr rfl, .inl rfl⟩
  | cons q rest ih =>
    obtain ⟨k, v⟩ := q
    rw [put]
    split
    · rename_i hk
      exact ⟨_, List.mem_cons_self .., .inr hk⟩
    · obtain ⟨p, hp, h⟩ := ih
      exact ⟨p, List.mem_cons_of_mem _ hp, h⟩

/-- A key stays when a value is put. -/
theorem mem_keys_put_of_mem {entries : List (κ × ν)} {k : κ} (h : k ∈ entries.map Prod.fst)
    (key : κ) (value : ν) : k ∈ (put key value entries).map Prod.fst := by
  induction entries with
  | nil => cases h
  | cons q rest ih =>
    rw [put]
    split
    · exact h
    · rcases List.mem_cons.mp h with rfl | h
      · exact List.mem_cons_self ..
      · exact List.mem_cons_of_mem _ (ih h)

/-- A value under a key stands in one of the entries, under a key that counts as the same. -/
theorem exists_of_lookup {entries : List (κ × ν)} {key : κ} {value : ν}
    (h : entries.lookup key = some value) :
    ∃ p ∈ entries, (key == p.1) = true ∧ p.2 = value := by
  induction entries with
  | nil => cases h
  | cons p rest ih =>
    rw [List.lookup_cons] at h
    split at h
    · rename_i hkey
      exact ⟨p, List.mem_cons_self .., hkey, Option.some.inj h⟩
    · obtain ⟨q, hq, heq⟩ := ih h
      exact ⟨q, List.mem_cons_of_mem _ hq, heq⟩

variable [LawfulBEq κ]

theorem lookup_of_mem {entries : List (κ × ν)} {key : κ} {value : ν}
    (hn : (entries.map Prod.fst).Nodup) (h : (key, value) ∈ entries) :
    entries.lookup key = some value := by
  induction entries with
  | nil => cases h
  | cons p rest ih =>
    obtain ⟨k, v⟩ := p
    rw [List.map_cons, List.nodup_cons] at hn
    rcases List.mem_cons.mp h with heq | hmem
    · cases heq
      rw [List.lookup_cons_self]
    · have hne : key ≠ k := by
        rintro rfl
        exact hn.1 (List.mem_map.mpr ⟨(key, value), hmem, rfl⟩)
      rw [List.lookup_cons, beq_false_of_ne hne]
      exact ih hn.2 hmem

theorem mem_of_lookup {entries : List (κ × ν)} {key : κ} {value : ν}
    (h : entries.lookup key = some value) : (key, value) ∈ entries := by
  obtain ⟨before, after, rfl, -⟩ := List.lookup_eq_some_iff.mp h
  exact List.mem_append_right _ (List.mem_cons_self ..)

/-- The keys of a mapping are those under which it has a value. -/
theorem mem_keys_iff {entries : List (κ × ν)} {key : κ} :
    key ∈ entries.map Prod.fst ↔ (entries.lookup key).isSome := by
  rw [List.lookup_isSome_iff, List.mem_map]
  simp only [beq_iff_eq, @eq_comm κ key]

theorem eq_or_mem_of_mem_put {entries : List (κ × ν)} {key : κ} {value : ν} {p : κ × ν}
    (h : p ∈ put key value entries) : p = (key, value) ∨ p ∈ entries := by
  rcases mem_put h with h | ⟨hv, hk | ⟨hk, -⟩⟩
  · exact .inr h
  · exact .inl (Prod.ext hk hv)
  · exact .inl (Prod.ext (eq_of_beq hk) hv)

theorem mem_of_mem_putAll {more entries : List (κ × ν)} {p : κ × ν}
    (h : p ∈ putAll entries more) : p ∈ entries ∨ p ∈ more := by
  induction more generalizing entries with
  | nil => exact .inl h
  | cons q rest ih =>
    rcases ih h with hput | hrest
    · rcases eq_or_mem_of_mem_put hput with rfl | hmem
      · exact .inr (List.mem_cons_self ..)
      · exact .inl hmem
    · exact .inr (List.mem_cons_of_mem _ hrest)

/-- The mapping that a sequence of pairs describes has no other pairs. -/
theorem mem_of_mem_ofPairs {pairs : List (κ × ν)} {p : κ × ν} (h : p ∈ ofPairs pairs) :
    p ∈ pairs :=
  (mem_of_mem_putAll h).resolve_left List.not_mem_nil

theorem putAll_eq_append {more entries : List (κ × ν)}
    (hn : (entries.map Prod.fst ++ more.map Prod.fst).Nodup) :
    putAll entries more = entries ++ more := by
  induction more generalizing entries with
  | nil => rw [List.append_nil, putAll, List.foldl_nil]
  | cons p rest ih =>
    have hput : put p.1 p.2 entries = entries ++ [p] := by
      refine put_eq_append p.2 fun q hq => beq_false_of_ne ?_
      exact (List.nodup_append.mp hn).2.2 _ (List.mem_map_of_mem hq) _ (by simp)
    have hrest : putAll (entries ++ [p]) rest = entries ++ [p] ++ rest := by
      refine ih ?_
      rw [List.map_append, List.append_assoc]
      exact hn
    rw [putAll, List.foldl_cons, hput]
    rw [putAll] at hrest
    rw [hrest, List.append_assoc, List.singleton_append]

theorem ofPairs_eq_self {pairs : List (κ × ν)} (hn : (pairs.map Prod.fst).Nodup) :
    ofPairs pairs = pairs := by
  rw [ofPairs, putAll_eq_append (by simpa using hn), List.nil_append]

theorem lookup_map {α : Type} (key : α → κ) (value : α → ν) (items : List α) (k : κ) :
    (items.map fun a => (key a, value a)).lookup k =
      (items.find? fun a => key a == k).map value := by
  induction items with
  | nil => rfl
  | cons a rest ih =>
    rw [List.map_cons, List.lookup_cons, List.find?_cons, ih, BEq.comm]
    cases key a == k with
    | true => rfl
    | false => rfl

theorem lookup_putAll (entries more : List (κ × ν)) (key : κ) :
    (putAll entries more).lookup key = (more.reverse.lookup key).or (entries.lookup key) := by
  induction more generalizing entries with
  | nil => rfl
  | cons p rest ih =>
    have hrest : putAll entries (p :: rest) = putAll (put p.1 p.2 entries) rest := rfl
    rw [hrest, ih, lookup_put, List.reverse_cons, List.lookup_append, List.lookup_cons,
      List.lookup_nil, Option.or_assoc]
    cases key == p.1 with
    | true => rfl
    | false => rfl

/-- Of the pairs with one key, the last counts. -/
theorem lookup_ofPairs (pairs : List (κ × ν)) (key : κ) :
    (ofPairs pairs).lookup key = pairs.reverse.lookup key := by
  rw [ofPairs, lookup_putAll, List.lookup_nil, Option.or_none]

theorem mem_keys_put {entries : List (κ × ν)} {key k : κ} {value : ν} :
    k ∈ (put key value entries).map Prod.fst ↔ k = key ∨ k ∈ entries.map Prod.fst := by
  rw [mem_keys_iff, mem_keys_iff, lookup_put]
  by_cases h : k = key
  · simp [h]
  · simp [h]

/-- Putting a value under a key does not repeat a key. -/
theorem nodup_put {entries : List (κ × ν)} (h : (entries.map Prod.fst).Nodup) (key : κ)
    (value : ν) : ((put key value entries).map Prod.fst).Nodup := by
  induction entries with
  | nil => exact List.nodup_singleton key
  | cons p rest ih =>
    rw [List.map_cons, List.nodup_cons] at h
    rw [put]
    split
    · exact List.nodup_cons.mpr h
    · rename_i hne
      refine List.nodup_cons.mpr ⟨fun hmem => ?_, ih h.2⟩
      rcases mem_keys_put.mp hmem with rfl | hmem
      · exact hne (beq_self_eq_true _)
      · exact h.1 hmem

theorem nodup_putAll {entries : List (κ × ν)} (h : (entries.map Prod.fst).Nodup)
    (more : List (κ × ν)) : ((putAll entries more).map Prod.fst).Nodup := by
  induction more generalizing entries with
  | nil => exact h
  | cons p rest ih => exact ih (nodup_put h p.1 p.2)

theorem nodup_ofPairs (pairs : List (κ × ν)) : ((ofPairs pairs).map Prod.fst).Nodup := by
  rw [ofPairs]
  exact nodup_putAll (by simp) pairs

/-- Where all keys are distinct, the order does not matter. -/
theorem lookup_eq_of_perm {entries others : List (κ × ν)} (hn : (entries.map Prod.fst).Nodup)
    (h : entries.Perm others) (key : κ) : entries.lookup key = others.lookup key := by
  have hn' : (others.map Prod.fst).Nodup := (h.map Prod.fst).nodup_iff.mp hn
  ext value
  exact ⟨fun hl => lookup_of_mem hn' (h.subset (mem_of_lookup hl)),
    fun hl => lookup_of_mem hn (h.symm.subset (mem_of_lookup hl))⟩

end ServiceWire.Entries
