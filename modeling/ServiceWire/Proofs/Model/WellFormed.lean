import ServiceWire.Model.Definitions
import ServiceWire.Proofs.Codec.Success
import ServiceWire.Proofs.Entries
import ServiceWire.Proofs.Fault

/-!
# Well-formed shape definitions

What shape definitions must say to be made into a graph: each has a kind, lists and maps refer to
defined shapes, the keys of maps are texts, the members of structures refer to defined shapes and
have places, a payload is one of the members, and no list or map contains itself through lists and
maps alone.
-/

namespace ServiceWire.Definitions

/-! ### What a definition says -/

/-- A name is defined by some fields. -/
def Defines (table : Table) (name : String) (fields : List (String × Json)) : Prop :=
  table.lookup name = some (.object fields)

/-- The kind that a definition names, if it is one. -/
def kind? (fields : List (String × Json)) : Option ShapeKind :=
  match fields.lookup "type" with
  | some (.str s) => ShapeKind.ofLabel? s
  | _ => none

/-- The name that a reference refers to, and its fields. -/
def ref? : Json → Option (String × List (String × Json))
  | .object ref =>
    match ref.lookup "shape" with
    | some (.str name) => some (name, ref)
    | _ => none
  | _ => none

/-- The reference of a definition to a part of a list or map. -/
def part? (fields : List (String × Json)) (role : String) :
    Option (String × List (String × Json)) :=
  (fields.lookup role).bind ref?

/-- The references of a definition to the members of a structure, by their names. -/
def memberRefs (fields : List (String × Json)) : List (String × Json) :=
  match fields.lookup "members" with
  | some (.object refs) => refs
  | _ => []

/-- The location that a reference names, if it is one. -/
def location? (ref : List (String × Json)) : Option Location :=
  match ref.lookup "location" with
  | none => some .body
  | some (.str s) => Location.ofLabel? s
  | some _ => none

/-! ### The types of the fields -/

/-- What a reference refers to is a text, if it is given. -/
def RefTyped (d : Json) : Prop :=
  ∀ ref target, d = .object ref → ref.lookup "shape" = some target → ∃ s, target = .str s

/-- The fields of a definition have their types, as far as they are given. -/
structure Typed (fields : List (String × Json)) : Prop where
  type : ∀ d, fields.lookup "type" = some d → ∃ s, d = .str s
  part : ∀ role ∈ ["member", "key", "value"], ∀ d, fields.lookup role = some d → RefTyped d
  members : ∀ d, fields.lookup "members" = some d →
    ∃ refs, d = .object refs ∧ ∀ p ∈ refs, RefTyped p.2
  payload : ∀ d, fields.lookup "payload" = some d → ∃ s, d = .str s
  required : ∀ d, fields.lookup "required" = some d →
    ∃ names : List String, d = .array (names.map .str)

/-- Definitions whose fields have their types, under different names. -/
structure TypedTable (table : Table) : Prop where
  names : (table.map Prod.fst).Nodup
  typed : ∀ p ∈ table, ∃ fields, p.2 = .object fields ∧ Typed fields

/-! ### What definitions must say -/

/-- The names that have definitions. -/
def Defined (table : Table) (name : String) : Prop := name ∈ table.map Prod.fst

/-- A list contains its items, and a map its keys and values. -/
inductive Contains (table : Table) : String → String → Prop
  | item {name item : String} {fields ref : List (String × Json)} (h : Defines table name fields)
      (kind : kind? fields = some .list) (part : part? fields "member" = some (item, ref)) :
      Contains table name item
  | key {name key : String} {fields ref : List (String × Json)} (h : Defines table name fields)
      (kind : kind? fields = some .map) (part : part? fields "key" = some (key, ref)) :
      Contains table name key
  | value {name value : String} {fields ref : List (String × Json)}
      (h : Defines table name fields) (kind : kind? fields = some .map)
      (part : part? fields "value" = some (value, ref)) : Contains table name value

/-- A definition has a kind, and the parts that the kind asks for. -/
inductive Formed (table : Table) (fields : List (String × Json)) : Prop
  | struct (kind : kind? fields = some .struct)
  | scalar {k : ScalarKind} (kind : kind? fields = some (.scalar k))
  | list {item : String} {ref : List (String × Json)} (kind : kind? fields = some .list)
      (part : part? fields "member" = some (item, ref)) (defined : Defined table item)
  | map {key value : String} {keyRef valueRef keyFields : List (String × Json)}
      (kind : kind? fields = some .map) (keyPart : part? fields "key" = some (key, keyRef))
      (valuePart : part? fields "value" = some (value, valueRef))
      (keyDefined : Defines table key keyFields)
      (keyKind : kind? keyFields = some (.scalar .string)) (valueDefined : Defined table value)

/-- The members of a structure refer to defined shapes and have places, and a payload that is given
is one of them. -/
structure Membered (table : Table) (fields : List (String × Json)) : Prop where
  members : ∀ p ∈ memberRefs fields, ∃ name ref, ref? p.2 = some (name, ref) ∧
    Defined table name ∧ (location? ref).isSome
  payload : ∀ s, fields.lookup "payload" = some (.str s) → s ≠ "" →
    s ∈ (memberRefs fields).map Prod.fst

/-- Definitions that can be made into a graph. -/
structure WellFormed (table : Table) : Prop where
  formed : ∀ name fields, Defines table name fields → Formed table fields
  membered : ∀ name fields, Defines table name fields → kind? fields = some .struct →
    Membered table fields
  acyclic : ∀ name, ¬Relation.TransGen (Contains table) name name

theorem Defines.defined {table : Table} {name : String} {fields : List (String × Json)}
    (h : Defines table name fields) : Defined table name :=
  List.mem_map_of_mem (Entries.mem_of_lookup h)

theorem Contains.defined {table : Table} {a b : String} (h : Contains table a b) :
    Defined table a := by
  cases h with
  | item h | key h | value h => exact h.defined

namespace TypedTable

variable {table : Table}

/-- What is defined has fields of their types. -/
theorem exists_defines (h : TypedTable table) {name : String} (hname : Defined table name) :
    ∃ fields, Defines table name fields ∧ Typed fields := by
  obtain ⟨p, hp, rfl⟩ := List.mem_map.mp hname
  obtain ⟨fields, hfields, typed⟩ := h.typed p hp
  refine ⟨fields, ?_, typed⟩
  rw [Defines, ← hfields]
  exact Entries.lookup_of_mem h.names hp

theorem typed_of_defines (h : TypedTable table) {name : String} {fields : List (String × Json)}
    (hname : Defines table name fields) : Typed fields := by
  obtain ⟨fields', hfields', typed⟩ := h.exists_defines hname.defined
  obtain rfl : fields' = fields := Json.object.inj (Option.some.inj (hfields'.symm.trans hname))
  exact typed

end TypedTable

/-! ### What is read of a definition -/

theorem definition_eq_ok_iff {table : Table} {name : String} {source : Option String}
    {fields : List (String × Json)} :
    definition table name source = .ok fields ↔ Defines table name fields := by
  rw [definition, Defines]
  split
  · rename_i h
    rw [h]
    exact ⟨nofun, nofun⟩
  · rename_i h
    rw [h]
    exact ⟨nofun, nofun⟩
  · rename_i h
    rw [h, Except.ok.injEq, Option.some.injEq, Json.object.injEq]
  · rename_i d hnone hobject h
    rw [h]
    refine ⟨nofun, fun heq => ?_⟩
    exact absurd (Option.some.inj heq) (hobject fields)

theorem kindOf_eq_ok_iff {name : String} {fields : List (String × Json)} {kind : ShapeKind} :
    kindOf name fields = .ok kind ↔ kind? fields = some kind := by
  rw [kindOf, kind?]
  cases fields.lookup "type" with
  | none => exact ⟨nofun, nofun⟩
  | some d =>
    cases d with
    | str s =>
      simp only [Option.getD_some]
      cases ShapeKind.ofLabel? s with
      | none => exact ⟨nofun, nofun⟩
      | some k => rw [Except.ok.injEq, Option.some.injEq]
    | _ => exact ⟨nofun, nofun⟩

theorem ref?_eq_some_iff {d : Json} {name : String} {ref : List (String × Json)} :
    ref? d = some (name, ref) ↔ d = .object ref ∧ ref.lookup "shape" = some (.str name) := by
  constructor
  · intro h
    rw [ref?.eq_def] at h
    split at h
    · split at h
      · rename_i hshape
        cases h
        exact ⟨rfl, hshape⟩
      · cases h
    · cases h
  · rintro ⟨rfl, hshape⟩
    simp only [ref?, hshape]

theorem part?_eq_some_iff {fields ref : List (String × Json)} {role name : String} :
    part? fields role = some (name, ref) ↔
      fields.lookup role = some (.object ref) ∧ ref.lookup "shape" = some (.str name) := by
  rw [part?, Option.bind_eq_some_iff]
  constructor
  · rintro ⟨d, hd, href⟩
    obtain ⟨rfl, hshape⟩ := ref?_eq_some_iff.mp href
    exact ⟨hd, hshape⟩
  · rintro ⟨hd, hshape⟩
    exact ⟨_, hd, ref?_eq_some_iff.mpr ⟨rfl, hshape⟩⟩

theorem reference_eq_ok_iff {name role : String} {fields ref : List (String × Json)}
    {target : Json} :
    reference name fields role = .ok (target, ref) ↔
      fields.lookup role = some (.object ref) ∧ ref.lookup "shape" = some target := by
  constructor
  · intro h
    rw [reference] at h
    split at h
    · rename_i hrole
      split at h
      · rename_i hshape
        cases h
        exact ⟨hrole, hshape⟩
      · cases h
    · cases h
  · rintro ⟨hrole, hshape⟩
    simp only [reference, hrole, hshape]

/-- A part that is referred to is read as its name. -/
theorem reference_of_part {name role part : String} {fields ref : List (String × Json)}
    (h : part? fields role = some (part, ref)) :
    reference name fields role = .ok (.str part, ref) :=
  reference_eq_ok_iff.mpr (part?_eq_some_iff.mp h)

end ServiceWire.Definitions
