import ServiceWire.Proofs.Entries
import ServiceWire.Proofs.Time.Clock
import ServiceWire.Proofs.Value.Alike
import ServiceWire.Shape.Graph

/-!
# Values of a shape

Which values belong to a shape: a structure is a mapping from names of its members to values of
their shapes, a list has items of one shape, a map has values of one shape under any texts, and a
scalar has the one type of its kind. There is no null anywhere: a member without a value is left
out. The definition follows the value, so it says what it should for shapes that contain
themselves.
-/

namespace ServiceWire

/-- The values of a kind of scalars. An integer is no truth value, a moment is one of the UTC
clock. -/
inductive Scalar.OfKind : ScalarKind → Value → Prop
  | string (s : String) : OfKind .string (.str s)
  | integer (i : Int) : OfKind .integer (.int i)
  | long (i : Int) : OfKind .long (.int i)
  | float (x : Double) : OfKind .float (.float x)
  | double (x : Double) : OfKind .double (.float x)
  | boolean (b : Bool) : OfKind .boolean (.bool b)
  | timestamp {t : DateTime} (utc : t.IsUtc) : OfKind .timestamp (.datetime t)
  | blob (data : Bytes) : OfKind .blob (.ofBytes data)

/-- What a form of bodies asks of values beside their types. -/
structure Demands (g : Graph) where
  /-- What is asked of the scalars of a kind. -/
  scalar : ScalarKind → Value → Prop
  /-- What is asked of the value of a member of a structure. -/
  member : Member g.size → Value → Prop

/-- Nothing is asked of values beside their types. -/
def Demands.none (g : Graph) : Demands g where
  scalar _ _ := True
  member _ _ := True

/-- A value belongs to a shape and meets the demands, at any depth. -/
inductive WellTyped (g : Graph) (d : Demands g) : g.Ref → Value → Prop
  /-- A structure: each entry is named for a member and has a value of the member's shape. -/
  | struct {r : g.Ref} {members : List (Member g.size)} {fields : List (String × Value)}
      (form : (g.shape r).form = .struct members) (names : (fields.map Prod.fst).Nodup)
      (known : ∀ p ∈ fields, ∃ m ∈ members, m.name = p.1)
      (typed : ∀ p ∈ fields, ∀ m ∈ members, m.name = p.1 → WellTyped g d m.shape p.2)
      (demands : ∀ p ∈ fields, ∀ m ∈ members, m.name = p.1 → d.member m p.2) :
      WellTyped g d r (.ofFields fields)
  /-- A list. -/
  | list {r item : g.Ref} {items : List Value} (form : (g.shape r).form = .list item)
      (typed : ∀ v ∈ items, WellTyped g d item v) : WellTyped g d r (.list items)
  /-- A map: its keys are texts. -/
  | map {r key value : g.Ref} {fields : List (String × Value)}
      (form : (g.shape r).form = .map key value) (names : (fields.map Prod.fst).Nodup)
      (typed : ∀ p ∈ fields, WellTyped g d value p.2) : WellTyped g d r (.ofFields fields)
  /-- A scalar. -/
  | scalar {r : g.Ref} {kind : ScalarKind} {v : Value} (form : (g.shape r).form = .scalar kind)
      (typed : Scalar.OfKind kind v) (demands : d.scalar kind v) : WellTyped g d r v

theorem Scalar.OfKind.not_null {kind : ScalarKind} {v : Value} (h : Scalar.OfKind kind v) :
    v.isNull = false := by
  cases h <;> rfl

theorem WellTyped.not_null {g : Graph} {d : Demands g} {r : g.Ref} {v : Value}
    (h : WellTyped g d r v) : v.isNull = false := by
  cases h with
  | struct => rfl
  | list => rfl
  | map => rfl
  | scalar _ typed _ => exact typed.not_null

/-- A value that meets any demands is a value of its shape. -/
theorem WellTyped.plain {g : Graph} {d : Demands g} {r : g.Ref} {v : Value}
    (h : WellTyped g d r v) : WellTyped g (.none g) r v := by
  induction h with
  | struct form names known _ _ ih =>
    exact .struct form names known ih fun _ _ _ _ _ => trivial
  | list form _ ih => exact .list form ih
  | map form names _ ih => exact .map form names ih
  | scalar form typed _ => exact .scalar form typed trivial

/-- The values in a well-typed structure, or in a mapping like it, are not null. -/
theorem WellTyped.fields_not_null {g : Graph} {d : Demands g} {members : List (Member g.size)}
    {fields : List (String × Value)} (known : ∀ p ∈ fields, ∃ m ∈ members, m.name = p.1)
    (typed : ∀ p ∈ fields, ∀ m ∈ members, m.name = p.1 → WellTyped g d m.shape p.2) :
    ∀ p ∈ fields, p.2.isNull = false := by
  intro p hp
  obtain ⟨m, hm, hname⟩ := known p hp
  exact (typed p hp m hm hname).not_null

/-- The values of a scalar shape are those of its kind. -/
theorem WellTyped.ofKind {g : Graph} {d : Demands g} {r : g.Ref} {k : ScalarKind} {v : Value}
    (h : WellTyped g d r v) (kind : (g.shape r).kind = .scalar k) : Scalar.OfKind k v := by
  cases h with
  | struct form | list form | map form =>
    rw [Shape.kind, form] at kind
    cases kind
  | scalar form typed _ =>
    rw [Shape.kind, form] at kind
    cases kind
    exact typed

/-- The values of a structure are mappings of its members. -/
theorem WellTyped.exists_fields {g : Graph} {d : Demands g} {r : g.Ref}
    {members : List (Member g.size)} {v : Value} (form : (g.shape r).form = .struct members)
    (h : WellTyped g d r v) :
    ∃ fields, v = .ofFields fields ∧ (fields.map Prod.fst).Nodup ∧
      (∀ p ∈ fields, ∃ m ∈ members, m.name = p.1) ∧
      (∀ p ∈ fields, ∀ m ∈ members, m.name = p.1 → WellTyped g d m.shape p.2) := by
  cases h with
  | struct form' names known typed demands =>
    rw [form] at form'
    cases form'
    exact ⟨_, rfl, names, known, typed⟩
  | list form' | map form' | scalar form' =>
    rw [form] at form'
    cases form'

/-- What a structure has for a member is a value of the member's shape and meets the demands. -/
theorem WellTyped.of_mem {g : Graph} {d : Demands g} {r : g.Ref} {members : List (Member g.size)}
    {fields : List (String × Value)} (form : (g.shape r).form = .struct members)
    (h : WellTyped g d r (.ofFields fields)) {m : Member g.size} (hm : m ∈ members) {v : Value}
    (hv : (m.name, v) ∈ fields) : WellTyped g d m.shape v ∧ d.member m v := by
  generalize hw : Value.ofFields fields = w at h
  cases h with
  | struct form' _ _ typed demands =>
    rw [form] at form'
    cases form'
    obtain rfl := Value.ofFields_injective hw
    exact ⟨typed _ hv m hm rfl, demands _ hv m hm rfl⟩
  | list form' | map form' | scalar form' =>
    rw [form] at form'
    cases form'

theorem WellTyped.exists_items {g : Graph} {d : Demands g} {r item : g.Ref} {v : Value}
    (form : (g.shape r).form = .list item) (h : WellTyped g d r v) :
    ∃ items, v = .list items ∧ ∀ w ∈ items, WellTyped g d item w := by
  cases h with
  | list form' typed =>
    rw [form] at form'
    cases form'
    exact ⟨_, rfl, typed⟩
  | struct form' | map form' | scalar form' =>
    rw [form] at form'
    cases form'

theorem WellTyped.exists_entries {g : Graph} {d : Demands g} {r key value : g.Ref} {v : Value}
    (form : (g.shape r).form = .map key value) (h : WellTyped g d r v) :
    ∃ fields, v = .ofFields fields ∧ (fields.map Prod.fst).Nodup ∧
      ∀ p ∈ fields, WellTyped g d value p.2 := by
  cases h with
  | map form' names typed =>
    rw [form] at form'
    cases form'
    exact ⟨_, rfl, names, typed⟩
  | struct form' | list form' | scalar form' =>
    rw [form] at form'
    cases form'

/-! ### The members that a structure has -/

/-- The members that a structure has values for, in their order, each with its value. -/
def present {n : Nat} (members : List (Member n)) (fields : List (String × Value)) :
    List (Member n × Value) :=
  members.filterMap fun m => (fields.lookup m.name).map fun v => (m, v)

theorem mem_present_iff {n : Nat} {members : List (Member n)} {fields : List (String × Value)}
    {q : Member n × Value} :
    q ∈ present members fields ↔ q.1 ∈ members ∧ fields.lookup q.1.name = some q.2 := by
  constructor
  · intro h
    obtain ⟨m, hm, hq⟩ := List.mem_filterMap.mp h
    obtain ⟨v, hv, rfl⟩ := Option.map_eq_some_iff.mp hq
    exact ⟨hm, hv⟩
  · rintro ⟨hm, hv⟩
    exact List.mem_filterMap.mpr ⟨q.1, hm, by rw [hv, Option.map_some]⟩

theorem mem_present {n : Nat} {members : List (Member n)} {fields : List (String × Value)}
    {q : Member n × Value} (h : q ∈ present members fields) :
    q.1 ∈ members ∧ (q.1.name, q.2) ∈ fields := by
  obtain ⟨hm, hv⟩ := mem_present_iff.mp h
  exact ⟨hm, Entries.mem_of_lookup hv⟩

theorem present_cons_none {n : Nat} {m : Member n} {fields : List (String × Value)}
    (h : fields.lookup m.name = none) (rest : List (Member n)) :
    present (m :: rest) fields = present rest fields := by
  rw [present, List.filterMap_cons, h]
  rfl

theorem present_cons_some {n : Nat} {m : Member n} {fields : List (String × Value)} {v : Value}
    (h : fields.lookup m.name = some v) (rest : List (Member n)) :
    present (m :: rest) fields = (m, v) :: present rest fields := by
  rw [present, List.filterMap_cons, h]
  rfl

theorem present_sublist {n : Nat} (members : List (Member n)) (fields : List (String × Value)) :
    ((present members fields).map Prod.fst).Sublist members := by
  induction members with
  | nil => exact .refl _
  | cons m rest ih =>
    rw [present, List.filterMap_cons]
    cases fields.lookup m.name with
    | none => exact ih.cons m
    | some v => exact ih.cons_cons m

/-- What is different for all members is different for those that a structure has. -/
theorem nodup_present {n : Nat} {α : Type} {members : List (Member n)} {f : Member n → α}
    (h : (members.map f).Nodup) (fields : List (String × Value)) :
    ((present members fields).map fun q => f q.1).Nodup := by
  have hs := (present_sublist members fields).map f
  rw [List.map_map] at hs
  exact h.sublist hs

/-- The members that a structure has are those with an entry, in another order. -/
theorem present_perm {n : Nat} {members : List (Member n)} {fields : List (String × Value)}
    (hm : (members.map Member.name).Nodup) (hf : (fields.map Prod.fst).Nodup)
    (known : ∀ p ∈ fields, ∃ m ∈ members, m.name = p.1) :
    ((present members fields).map fun q => (q.1.name, q.2)).Perm fields := by
  rw [List.perm_ext_iff_of_nodup]
  · rintro ⟨name, v⟩
    constructor
    · intro h
      obtain ⟨q, hq, heq⟩ := List.mem_map.mp h
      exact heq ▸ (mem_present hq).2
    · intro h
      obtain ⟨m, hmem, rfl⟩ := known _ h
      exact List.mem_map.mpr
        ⟨(m, v), mem_present_iff.mpr ⟨hmem, Entries.lookup_of_mem hf h⟩, rfl⟩
  · refine List.Nodup.of_map Prod.fst ?_
    rw [List.map_map]
    exact nodup_present hm fields
  · exact hf.of_map _

/-- A structure is well-typed if the members that it has are. -/
theorem WellTyped.of_present {g : Graph} {d : Demands g} {r : g.Ref}
    {members : List (Member g.size)} {fields : List (String × Value)}
    (form : (g.shape r).form = .struct members) (names : (fields.map Prod.fst).Nodup)
    (known : ∀ name ∈ fields.map Prod.fst, name ∈ members.map Member.name)
    (h : ∀ q ∈ present members fields, WellTyped g d q.1.shape q.2 ∧ d.member q.1 q.2) :
    WellTyped g d r (.ofFields fields) := by
  have hpresent : ∀ p ∈ fields, ∀ m ∈ members, m.name = p.1 →
      (m, p.2) ∈ present members fields := by
    intro p hp m hm hname
    refine mem_present_iff.mpr ⟨hm, Entries.lookup_of_mem names ?_⟩
    rw [hname]
    exact hp
  refine .struct form names (fun p hp => ?_) (fun p hp m hm hname => ?_) fun p hp m hm hname => ?_
  · exact List.mem_map.mp (known p.1 (List.mem_map_of_mem hp))
  · exact (h _ (hpresent p hp m hm hname)).1
  · exact (h _ (hpresent p hp m hm hname)).2

/-!
## Values without nulls

Whether a value has a null in it, at any depth: as itself, under a name or among its items. No
well-typed value has one.
-/

namespace Value

/-- Whether a value has no null in it, given this for its parts. -/
def nullFreeView (w : View Bool) : Bool :=
  !w.whole.isNull && w.named.all (fun p => p.2.2) && (w.items?.getD []).all fun p => p.2

/-- Whether there is no null in a value, at any depth. -/
def nullFree (v : Value) : Bool := v.fold nullFreeView

theorem eq_null_of_isNull {v : Value} (h : v.isNull = true) : v = .null := by
  cases v with
  | null => rfl
  | _ => cases h

theorem nullFree_eq (v : Value) : v.nullFree = nullFreeView (v.view nullFree) := fold_eq _ v

theorem nullFree_ofFields (fields : List (String × Value)) :
    (ofFields fields).nullFree = fields.all fun p => p.2.nullFree := by
  rw [nullFree_eq, nullFreeView]
  simp only [ofFields, view, named, isNull, sequence?, Bool.not_false, Bool.true_and,
    List.map_map, List.all_map, Option.map_none, Option.getD_none, List.all_nil, Bool.and_true,
    Function.comp_def]

theorem nullFree_list (items : List Value) :
    (list items).nullFree = items.all fun v => v.nullFree := by
  rw [nullFree_eq, nullFreeView]
  simp only [view, named, isNull, sequence?, Bool.not_false, Bool.true_and, List.map_nil,
    List.all_nil, Option.map_some, Option.getD_some, List.all_map, Function.comp_def]

end Value

theorem Scalar.OfKind.nullFree {kind : ScalarKind} {v : Value} (h : Scalar.OfKind kind v) :
    v.nullFree = true := by
  cases h with
  | _ => rw [Value.nullFree_eq]; rfl

/-- A well-typed value has no null in it. -/
theorem WellTyped.nullFree {g : Graph} {d : Demands g} {r : g.Ref} {v : Value}
    (h : WellTyped g d r v) : v.nullFree = true := by
  induction h with
  | struct _ _ known _ _ ih =>
    rw [Value.nullFree_ofFields, List.all_eq_true]
    intro p hp
    obtain ⟨m, hm, hname⟩ := known p hp
    exact ih p hp m hm hname
  | list _ _ ih =>
    rw [Value.nullFree_list, List.all_eq_true]
    exact ih
  | map _ _ _ ih =>
    rw [Value.nullFree_ofFields, List.all_eq_true]
    exact ih
  | scalar _ typed _ => exact typed.nullFree

end ServiceWire
