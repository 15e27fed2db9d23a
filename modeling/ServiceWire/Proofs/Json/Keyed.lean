import ServiceWire.Json.Reader
import ServiceWire.Proofs.Entries

/-!
# Documents without repeated fields

A text may name a field twice, but the document that is read from it does not: of two values with
one name the later one counts. So every object of a document has each of its names once, at any
depth. What is proved of documents follows their parts, the items of an array and the values of an
object.
-/

namespace ServiceWire.Json

/-- The names of the fields of an object. -/
def names : Json → List String
  | object fields => fields.map Prod.fst
  | _ => []

/-- The items of an array, or the values of the fields of an object. -/
def parts : Json → List Json
  | array items => items
  | object fields => fields.map Prod.snd
  | _ => []

/-- No object names a field twice, in a document and in its parts. -/
inductive Keyed : Json → Prop
  | intro {d : Json} (names : d.names.Nodup) (parts : ∀ e ∈ d.parts, Keyed e) : Keyed d

theorem Keyed.names {d : Json} (h : d.Keyed) : d.names.Nodup := by
  cases h with
  | intro names => exact names

/-- What has no parts has no repeated fields. -/
theorem Keyed.of_parts_eq_nil {d : Json} (names : d.names = []) (parts : d.parts = []) :
    d.Keyed := by
  refine .intro ?_ fun e he => ?_
  · rw [names]
    exact List.nodup_nil
  · rw [parts] at he
    cases he

theorem Keyed.array {items : List Json} (h : ∀ d ∈ items, d.Keyed) : (Json.array items).Keyed :=
  .intro List.nodup_nil h

theorem Keyed.object {fields : List (String × Json)} (names : (fields.map Prod.fst).Nodup)
    (h : ∀ p ∈ fields, p.2.Keyed) : (Json.object fields).Keyed := by
  refine .intro names fun e he => ?_
  obtain ⟨p, hp, rfl⟩ := List.mem_map.mp he
  exact h p hp

/-! ### What is read from a text -/

theorem keyed_of_number? {negative : Bool} {cs rest : List Char} {d : Json}
    (h : number? negative cs = some (d, rest)) : d.Keyed := by
  rw [number?] at h
  obtain ⟨⟨whole, after⟩, -, h⟩ := Option.bind_eq_some_iff.mp h
  dsimp only at h
  split at h
  · cases h
    exact .of_parts_eq_nil rfl rfl
  · cases h
    exact .of_parts_eq_nil rfl rfl

theorem keyed_of_word? {cs rest : List Char} {d : Json} (h : word? cs = some (d, rest)) :
    d.Keyed := by
  have hwords : ∀ w ∈ words, w.2.names = [] ∧ w.2.parts = [] := by
    simp [words, names, parts]
  obtain ⟨w, hw, hdrop⟩ := List.exists_of_findSome?_eq_some h
  obtain ⟨after, -, heq⟩ := Option.map_eq_some_iff.mp hdrop
  cases heq
  exact .of_parts_eq_nil (hwords w hw).1 (hwords w hw).2

theorem keyed_of_atom? {cs rest : List Char} {d : Json} (h : atom? cs = some (d, rest)) :
    d.Keyed := by
  unfold atom? at h
  split at h
  · rename_i hword
    exact keyed_of_word? (hword.trans h)
  · split at h
    · exact keyed_of_number? h
    · exact keyed_of_number? h

/-- With some fuel, the three readers give documents that name no field twice. -/
structure KeyedReaders (fuel : Nat) : Prop where
  value : ∀ {cs d rest}, value? fuel cs = some (d, rest) → d.Keyed
  items : ∀ {acc cs d rest}, (∀ e ∈ acc, Keyed e) → items? fuel acc cs = some (d, rest) → d.Keyed
  fields : ∀ {acc cs d rest}, (acc.map Prod.fst).Nodup → (∀ p ∈ acc, Keyed p.2) →
    fields? fuel acc cs = some (d, rest) → d.Keyed

namespace KeyedReaders

variable {fuel : Nat} (readers : KeyedReaders fuel) {cs rest : List Char} {d : Json}

include readers

theorem value_succ (h : value? (fuel + 1) cs = some (d, rest)) : d.Keyed := by
  unfold value? at h
  split at h
  · obtain ⟨p, -, heq⟩ := Option.map_eq_some_iff.mp h
    cases heq
    exact .of_parts_eq_nil rfl rfl
  · split at h
    · cases h
      exact .of_parts_eq_nil rfl rfl
    · exact readers.items (List.forall_mem_nil _) h
  · split at h
    · cases h
      exact .of_parts_eq_nil rfl rfl
    · exact readers.fields (by simp) (List.forall_mem_nil _) h
  · exact keyed_of_atom? h

theorem items_succ {acc : List Json} (hacc : ∀ e ∈ acc, Keyed e)
    (h : items? (fuel + 1) acc cs = some (d, rest)) : d.Keyed := by
  rw [items?] at h
  split at h
  · cases h
  · rename_i e after he
    have hmore : ∀ e' ∈ e :: acc, Keyed e' := List.forall_mem_cons.mpr ⟨readers.value he, hacc⟩
    split at h
    · exact readers.items hmore h
    · cases h
      exact .array fun e' he' => hmore e' (List.mem_reverse.mp he')
    · cases h

theorem fields_succ {acc : List (String × Json)} (hnames : (acc.map Prod.fst).Nodup)
    (hacc : ∀ p ∈ acc, Keyed p.2) (h : fields? (fuel + 1) acc cs = some (d, rest)) : d.Keyed := by
  unfold fields? at h
  split at h
  · split at h
    · cases h
    · rename_i key after hkey
      split at h
      · split at h
        · cases h
        · rename_i e after' he
          have hnames' := Entries.nodup_put hnames key e
          have hmore : ∀ p ∈ Entries.put key e acc, Keyed p.2 := by
            intro p hp
            rcases Entries.eq_or_mem_of_mem_put hp with rfl | hp
            · exact readers.value he
            · exact hacc p hp
          dsimp only at h
          split at h
          · exact readers.fields hnames' hmore h
          · cases h
            exact .object hnames' hmore
          · cases h
      · cases h
  · cases h

end KeyedReaders

/-- The readers are one inside the other: the fuel goes down with each. -/
theorem keyedReaders (fuel : Nat) : KeyedReaders fuel := by
  induction fuel with
  | zero =>
    refine ⟨fun h => ?_, fun _ h => ?_, fun _ _ h => ?_⟩
    · rw [value?] at h; cases h
    · rw [items?] at h; cases h
    · rw [fields?] at h; cases h
  | succ fuel ih => exact ⟨ih.value_succ, ih.items_succ, ih.fields_succ⟩

/-- A document that was read from a text names no field twice. -/
theorem keyed_of_parse? {s : String} {d : Json} (h : parse? s = some d) : d.Keyed := by
  simp only [parse?] at h
  split at h
  · rename_i e rest he
    split at h
    · cases h
      exact (keyedReaders _).value he
    · cases h
  · cases h

end ServiceWire.Json
