import ServiceWire.Proofs.Entries
import ServiceWire.Value.Entries

/-!
# Entries under texts

A mapping may have keys of any type. A text is the same key as itself only, so the entries under
texts are a mapping of their own: what is put under a text is put there, and what is put under any
other key leaves it as it is.
-/

namespace ServiceWire.Entries

variable {ν : Type}

/-- An entry under a text. -/
def text? (p : Value × ν) : Option (String × ν) :=
  match p.1 with
  | .str s => some (s, p.2)
  | _ => none

/-- The entries under texts. -/
def texts (entries : List (Value × ν)) : List (String × ν) := entries.filterMap text?

theorem text?_eq_some_iff {p : Value × ν} {q : String × ν} :
    text? p = some q ↔ p = (.str q.1, q.2) := by
  obtain ⟨k, v⟩ := p
  cases k with
  | str s =>
    simp only [text?, Option.some.injEq, Prod.ext_iff, Value.str.injEq]
  | _ => simp [text?, Prod.ext_iff]

theorem text?_eq_none {k : Value} (h : ∀ s, k ≠ .str s) (v : ν) : text? (k, v) = none := by
  rw [Option.eq_none_iff_forall_ne_some]
  rintro q hq
  exact h q.1 (congrArg Prod.fst (text?_eq_some_iff.mp hq))

theorem mem_texts_iff {entries : List (Value × ν)} {s : String} {v : ν} :
    (s, v) ∈ texts entries ↔ (.str s, v) ∈ entries := by
  simp only [texts, List.mem_filterMap, text?_eq_some_iff, exists_eq_right]

theorem lookup_texts (s : String) (entries : List (Value × ν)) :
    (texts entries).lookup s = entries.lookup (.str s) := by
  induction entries with
  | nil => rfl
  | cons p rest ih =>
    obtain ⟨k, v⟩ := p
    rw [texts, List.filterMap_cons, ← texts, List.lookup_cons]
    cases hk : text? (k, v) with
    | some q =>
      obtain ⟨rfl, rfl⟩ := Prod.mk.inj (text?_eq_some_iff.mp hk)
      rw [List.lookup_cons, Value.str_beq_str, ih]
    | none =>
      have hne : (Value.str s == k) = false := by
        rw [Bool.eq_false_iff, ne_eq, Value.str_beq_iff]
        rintro rfl
        cases hk
      rw [hne]
      exact ih

theorem mem_of_lookup_str {s : String} {v : ν} {entries : List (Value × ν)}
    (h : entries.lookup (.str s) = some v) : (.str s, v) ∈ entries := by
  rw [← lookup_texts] at h
  exact mem_texts_iff.mp (mem_of_lookup h)

/-- A mapping all of whose entries are under texts is made of them. -/
theorem eq_of_texts {entries : List (Value × ν)} {fields : List (String × ν)}
    (h : texts entries = fields) (hlength : entries.length = fields.length) :
    entries = fields.map fun p => (.str p.1, p.2) := by
  subst h
  induction entries with
  | nil => rfl
  | cons p rest ih =>
    rw [texts, List.filterMap_cons, ← texts] at hlength ⊢
    cases hp : text? p with
    | some q =>
      rw [hp] at hlength
      rw [List.map_cons, ← ih (Nat.succ.inj hlength), ← text?_eq_some_iff.mp hp]
    | none =>
      rw [hp, List.length_cons] at hlength
      have hle : (texts rest).length ≤ rest.length := List.length_filterMap_le ..
      dsimp only at hlength
      omega

/-! ### Putting -/

theorem texts_put_str (s : String) (x : ν) (entries : List (Value × ν)) :
    texts (put (.str s) x entries) = put s x (texts entries) := by
  induction entries with
  | nil => rfl
  | cons p rest ih =>
    obtain ⟨k, v⟩ := p
    cases hk : text? (k, v) with
    | some q =>
      obtain ⟨rfl, rfl⟩ := Prod.mk.inj (text?_eq_some_iff.mp hk)
      rw [put, Value.str_beq_str]
      simp only [texts] at ih ⊢
      rw [List.filterMap_cons_some hk, put]
      split
      · rfl
      · rw [List.filterMap_cons_some hk, ih]
    | none =>
      have hne : (k == Value.str s) = false := by
        rw [Bool.eq_false_iff, ne_eq, Value.beq_str_iff]
        rintro rfl
        cases hk
      simp only [texts] at ih ⊢
      rw [put, hne, if_neg Bool.false_ne_true, List.filterMap_cons_none hk,
        List.filterMap_cons_none hk, ih]

theorem texts_put_of_ne {key : Value} (h : ∀ s, key ≠ .str s) (x : ν)
    (entries : List (Value × ν)) : texts (put key x entries) = texts entries := by
  induction entries with
  | nil => exact List.filterMap_cons_none (text?_eq_none h x)
  | cons p rest ih =>
    obtain ⟨k, v⟩ := p
    rw [put]
    simp only [texts] at ih ⊢
    split
    · rename_i hk
      -- The key in whose place the value is put is no text either.
      have hne : ∀ s, k ≠ .str s := by
        rintro s rfl
        exact h s ((Value.str_beq_iff s key).mp hk)
      rw [List.filterMap_cons_none (text?_eq_none hne x),
        List.filterMap_cons_none (text?_eq_none hne v)]
    · rw [List.filterMap_cons, List.filterMap_cons, ih]

/-- What is put under a text is found there, and nothing else is lost. -/
theorem lookup_put_str (name key : String) (x : ν) (entries : List (Value × ν)) :
    (put (.str key) x entries).lookup (.str name) =
      if name = key then some x else entries.lookup (.str name) := by
  rw [← lookup_texts, texts_put_str, lookup_put, lookup_texts]
  simp only [beq_iff_eq]

/-- What is put under any other key changes nothing under a text. -/
theorem lookup_put_text (name : String) (key : Value) (x : ν) (entries : List (Value × ν)) :
    (put key x entries).lookup (.str name) =
      if key == .str name then some x else entries.lookup (.str name) := by
  by_cases h : ∃ s, key = .str s
  · obtain ⟨s, rfl⟩ := h
    rw [lookup_put_str, Value.str_beq_str]
    simp only [beq_iff_eq, @eq_comm _ name]
  · have hne : (key == Value.str name) = false := by
      rw [Bool.eq_false_iff, ne_eq, Value.beq_str_iff]
      exact fun hkey => h ⟨name, hkey⟩
    rw [hne, if_neg Bool.false_ne_true, ← lookup_texts,
      texts_put_of_ne fun s hkey => h ⟨s, hkey⟩, lookup_texts]

/-- Where there is nothing under a text, what is put under it is new. -/
theorem putNew_str_of_lookup {s : String} {entries : List (Value × ν)}
    (h : entries.lookup (.str s) = none) (x : ν) :
    putNew (.str s) x entries = put (.str s) x entries := by
  have hne : ∀ p ∈ entries, (p.1 == Value.str s) = false := by
    intro p hp
    rw [Bool.eq_false_iff, ne_eq, Value.beq_str_iff]
    intro hkey
    have hnot := List.lookup_eq_none_iff.mp h p hp
    rw [bne, (Value.str_beq_iff s p.1).mpr hkey] at hnot
    cases hnot
  rw [put_eq_append x hne, putNew, h]

theorem texts_putNew_str (s : String) (x : ν) (entries : List (Value × ν)) :
    texts (putNew (.str s) x entries) = putNew s x (texts entries) := by
  rw [putNew, putNew, lookup_texts]
  cases entries.lookup (.str s) with
  | some v => rfl
  | none => rw [texts, List.filterMap_append]; rfl

end ServiceWire.Entries
