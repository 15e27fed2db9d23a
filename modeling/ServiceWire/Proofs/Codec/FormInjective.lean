import ServiceWire.Proofs.Codec.FormPath
import ServiceWire.Proofs.Codec.Scalar
import ServiceWire.Proofs.Value.Alike

/-!
# Forms tell values apart

Two values with the same parameters are the same value, but for the order of entries, if no mapping
in them is empty: an empty mapping has no parameters and is not told from an absent one. The
parameters of a part are those with names at or below the path to it, so equal parameters of two
values are equal part by part.
-/

namespace ServiceWire

/-! ### Values without empty mappings -/

namespace Value

/-- Whether a value has no empty mapping in it, given this for its parts. -/
def filledView (w : View Bool) : Bool :=
  !(w.whole.isMapping && w.named.isEmpty) && w.named.all (fun p => p.2.2) &&
    (w.items?.getD []).all fun p => p.2

/-- Whether no mapping in a value is empty. -/
def filled (v : Value) : Bool := v.fold filledView

theorem filled_eq (v : Value) : v.filled = filledView (v.view filled) := fold_eq _ v

theorem filled_ofFields {fields : List (String × Value)} (h : (ofFields fields).filled = true) :
    fields ≠ [] ∧ ∀ p ∈ fields, p.2.filled = true := by
  rw [filled_eq, filledView] at h
  simp only [ofFields, view, named, isMapping, sequence?, Bool.true_and, Bool.and_eq_true,
    Bool.not_eq_true', List.isEmpty_eq_false_iff, List.map_map, List.all_map, List.all_eq_true,
    ne_eq, List.map_eq_nil_iff] at h
  exact ⟨h.1.1, h.1.2⟩

theorem filled_list {items : List Value} (h : (list items).filled = true) :
    ∀ v ∈ items, v.filled = true := by
  rw [filled_eq, filledView] at h
  simp only [view, sequence?, Option.map_some, Option.getD_some, Bool.and_eq_true,
    List.all_map, List.all_eq_true] at h
  exact h.2

end Value

namespace FormBody

/-- Numbers with a fraction are left out. -/
def demands (g : Graph) : Demands g where
  scalar kind _ := Scalar.Exact kind
  member _ _ := True

variable {c : Codec} {g : Graph}

/-! ### Parameters of parts -/

theorem append_inj_of_forall {α : Type} {A : α → Prop} {xs xs' ys ys' : List α}
    (h : xs ++ ys = xs' ++ ys') (hx : ∀ a ∈ xs, A a) (hx' : ∀ a ∈ xs', A a)
    (hy : ∀ a ∈ ys, ¬A a) (hy' : ∀ a ∈ ys', ¬A a) : xs = xs' ∧ ys = ys' := by
  induction xs generalizing xs' with
  | nil =>
    cases xs' with
    | nil => exact ⟨rfl, h⟩
    | cons a rest =>
      refine absurd (hx' a (List.mem_cons_self ..)) (hy a ?_)
      rw [List.nil_append] at h
      rw [h]
      exact List.mem_append_left _ (List.mem_cons_self ..)
  | cons a rest ih =>
    cases xs' with
    | nil =>
      refine absurd (hx a (List.mem_cons_self ..)) (hy' a ?_)
      rw [List.nil_append] at h
      rw [← h]
      exact List.mem_append_left _ (List.mem_cons_self ..)
    | cons a' rest' =>
      obtain ⟨rfl, hrest⟩ := List.cons.inj h
      obtain ⟨rfl, hys⟩ := ih hrest (fun b hb => hx b (List.mem_cons_of_mem _ hb))
        fun b hb => hx' b (List.mem_cons_of_mem _ hb)
      exact ⟨rfl, hys⟩

/-- The parameters of a part are told from those of other parts. -/
theorem split {path step : String} {steps : String → Prop} {first first' others others' : Params}
    (hsteps : ∀ s, steps s → IsStep s) (hstep : IsStep step) (hnew : ¬steps step)
    (hfirst : Keyed (child path step) first) (hfirst' : Keyed (child path step) first')
    (hothers : Spread path steps others) (hothers' : Spread path steps others')
    (h : first ++ others = first' ++ others') : first = first' ∧ others = others' := by
  refine append_inj_of_forall (A := fun p => ∃ name, p.1 = .str name ∧ Below (child path step) name)
    h hfirst.below hfirst'.below ?_ ?_
  · rintro p hp ⟨name, hname, hbelow⟩
    exact hothers.not_below hsteps hstep hnew hbelow hp hname
  · rintro p hp ⟨name, hname, hbelow⟩
    exact hothers'.not_below hsteps hstep hnew hbelow hp hname

/-! ### No value without parameters -/

theorem writeMembers_ne_nil {members : List (Member g.size)} {path : Value}
    {w : View (Writing g)} {params : Params} (h : writeMembers c g members path w = .ok params)
    {m : Member g.size} (hm : m ∈ members)
    (hne : ∀ first, writeMember c g path w m = .ok first → first ≠ []) : params ≠ [] := by
  induction members generalizing params with
  | nil => cases hm
  | cons m' rest ih =>
    obtain ⟨first, others, hfirst, hothers, rfl⟩ := writeMembers_cons h
    rcases List.mem_cons.mp hm with rfl | hm
    · exact List.append_ne_nil_of_left_ne_nil (hne first hfirst) others
    · exact List.append_ne_nil_of_right_ne_nil first (ih hothers hm)

/-- The member of a structure is written under its name, if it has a value. -/
theorem writeMember_of_lookup {fields : List (String × Value)}
    (notNull : ∀ p ∈ fields, p.2.isNull = false) {m : Member g.size} {x path : Value}
    {params : Params} (hx : fields.lookup m.name = some x)
    (h : writeMember c g path ((Value.ofFields fields).view (write c g)) m = .ok params) :
    write c g x m.shape (joinPath path m.wireName) = .ok params := by
  have hmember : ((Value.ofFields fields).view (write c g)).member? m.name =
      some (x, write c g x) := by
    rw [Value.member?_view_ofFields _ notNull, hx, Option.map_some]
  rcases writeMember_eq_ok h with ⟨hnone, -⟩ | ⟨p, hp, hwrite⟩
  · rw [hmember] at hnone
    cases hnone
  · rw [hmember] at hp
    cases hp
    exact hwrite

theorem writeMember_of_lookup_none {fields : List (String × Value)}
    (notNull : ∀ p ∈ fields, p.2.isNull = false) {m : Member g.size} {path : Value}
    {params : Params} (hx : fields.lookup m.name = none)
    (h : writeMember c g path ((Value.ofFields fields).view (write c g)) m = .ok params) :
    params = [] := by
  have hmember : ((Value.ofFields fields).view (write c g)).member? m.name = none := by
    rw [Value.member?_view_ofFields _ notNull, hx, Option.map_none]
  rcases writeMember_eq_ok h with ⟨-, hnil⟩ | ⟨p, hp, -⟩
  · exact hnil
  · rw [hmember] at hp
    cases hp

/-! ### Writing the values of a form -/

section Forms

variable {r : g.Ref} {path : Value} {params : Params}

theorem write_struct {members : List (Member g.size)} (form : (g.shape r).form = .struct members)
    {v : Value} (h : write c g v r path = .ok params) :
    writeMembers c g members path (v.view (write c g)) = .ok params := by
  rw [write_eq, writeView] at h
  simpa only [form] using h

theorem write_list {item : g.Ref} (form : (g.shape r).form = .list item) {items : List Value}
    (h : write c g (.list items) r path = .ok params) :
    (items = [] ∧ params = [(path, "")]) ∨ (items ≠ [] ∧
      writeItems g item
        (if (g.shape r).flattened then path else joinPath path (g.shape r).itemTag) 1
        (items.map fun v => (v, write c g v)) = .ok params) := by
  rw [write_eq, writeView] at h
  simp only [form, Value.items?_view_list] at h
  cases items with
  | nil => exact .inl ⟨rfl, (Except.ok.inj h).symm⟩
  | cons v rest =>
    obtain ⟨-, -, h⟩ := exists_of_bind h
    exact .inr ⟨List.cons_ne_nil v rest, h⟩

theorem write_map {key value : g.Ref} (form : (g.shape r).form = .map key value)
    {fields : List (String × Value)} (h : write c g (.ofFields fields) r path = .ok params) :
    writeEntries g (g.shape r) value
      (if (g.shape r).flattened then path else joinPath path (.str "entry")) 1
      (fields.map fun p => (.str p.1, p.2, write c g p.2)) = .ok params := by
  rw [write_eq, writeView] at h
  simp only [form, Value.entries?_view_ofFields] at h
  obtain ⟨-, -, h⟩ := exists_of_bind h
  exact h

theorem write_scalar {kind : ScalarKind} (form : (g.shape r).form = .scalar kind) {v : Value}
    (h : write c g v r path = .ok params) :
    ∃ text, Scalar.textOf .iso8601 kind v = .ok text ∧ params = [(path, text)] := by
  rw [write_eq, writeView] at h
  simp only [form, Value.whole_view] at h
  obtain ⟨text, htext, rfl⟩ := exists_of_map h
  exact ⟨text, exists_of_mapError htext, rfl⟩

end Forms

theorem write_ne_nil {d : Demands g} {r : g.Ref} {v path : Value} {params : Params}
    (h : WellTyped g d r v) (hv : v.filled = true) (hw : write c g v r path = .ok params) :
    params ≠ [] := by
  induction h generalizing path params with
  | struct form names known typed demands ih =>
    obtain ⟨hne, hfilled⟩ := Value.filled_ofFields hv
    obtain ⟨p, hp⟩ := List.exists_mem_of_ne_nil _ hne
    obtain ⟨m, hm, hname⟩ := known p hp
    refine writeMembers_ne_nil (write_struct form hw) hm fun first hfirst => ?_
    refine ih p hp m hm hname (hfilled p hp) (writeMember_of_lookup
      (WellTyped.fields_not_null known typed) ?_ hfirst)
    rw [hname]
    exact Entries.lookup_of_mem names hp
  | list form typed ih =>
    rename_i items
    rcases write_list form hw with ⟨-, rfl⟩ | ⟨hne, hw⟩
    · exact List.cons_ne_nil _ _
    · cases items with
      | nil => exact absurd rfl hne
      | cons v rest =>
        have hv := Value.filled_list hv v (List.mem_cons_self ..)
        obtain ⟨first, hfirst, hafter⟩ := exists_of_bind hw
        obtain ⟨others, -, heq⟩ := exists_of_bind hafter
        obtain rfl := Except.ok.inj heq
        exact List.append_ne_nil_of_left_ne_nil (ih v (List.mem_cons_self ..) hv hfirst) others
  | map form names typed ih =>
    rename_i fields
    obtain ⟨hne, -⟩ := Value.filled_ofFields hv
    cases fields with
    | nil => exact absurd rfl hne
    | cons p rest =>
      obtain ⟨key, -, hafter⟩ := exists_of_bind (write_map form hw)
      obtain ⟨first, -, hrest⟩ := exists_of_bind hafter
      obtain ⟨others, -, heq⟩ := exists_of_bind hrest
      obtain rfl := Except.ok.inj heq
      exact List.cons_ne_nil _ _
  | scalar form =>
    obtain ⟨text, -, rfl⟩ := write_scalar form hw
    exact List.cons_ne_nil _ _

/-! ### Values with the same parameters -/

/-- A value is told from other values of its shape by its parameters, under any path. -/
def Told (c : Codec) (g : Graph) (r : g.Ref) (v : Value) : Prop :=
  ∀ v', WellTyped g (demands g) r v' → v'.filled = true → ∀ path, path ≠ "" → ∀ params,
    write c g v r (.str path) = .ok params → write c g v' r (.str path) = .ok params → v.Alike v'

theorem exists_writeMember {members : List (Member g.size)} {w w' : View (Writing g)}
    (hw : w.All (Names g)) (hw' : w'.All (Names g))
    (steps : ∀ m ∈ members, m.wireName = .str m.wireName.text ∧ IsStep m.wireName.text)
    (wireNames : (members.map fun m => m.wireName.text).Nodup)
    (plain : ∀ m ∈ members, ∀ q, g.Leads m.shape q → Plain (g.shape q)) {path : String}
    {params : Params} (h : writeMembers c g members (.str path) w = .ok params)
    (h' : writeMembers c g members (.str path) w' = .ok params) :
    ∀ m ∈ members, ∃ first, writeMember c g (.str path) w m = .ok first ∧
      writeMember c g (.str path) w' m = .ok first := by
  induction members generalizing params with
  | nil => exact fun m hm => by cases hm
  | cons m rest ih =>
    obtain ⟨first, others, hfirst, hothers, rfl⟩ := writeMembers_cons h
    obtain ⟨first', others', hfirst', hothers', heq⟩ := writeMembers_cons h'
    obtain ⟨hname, hstep⟩ := steps m (List.mem_cons_self ..)
    have hplain := plain m (List.mem_cons_self ..)
    have hsteps : ∀ m' ∈ rest, m'.wireName = .str m'.wireName.text ∧ IsStep m'.wireName.text :=
      fun m' hm' => steps m' (List.mem_cons_of_mem _ hm')
    have hplains : ∀ m' ∈ rest, ∀ q, g.Leads m'.shape q → Plain (g.shape q) :=
      fun m' hm' => plain m' (List.mem_cons_of_mem _ hm')
    rw [List.map_cons, List.nodup_cons] at wireNames
    obtain ⟨rfl, rfl⟩ := split (fun s hs => by
        obtain ⟨m', hm', rfl⟩ := List.mem_map.mp hs
        exact (hsteps m' hm').2) hstep wireNames.1
      (keyed_writeMember hw hname hstep hplain hfirst)
      (keyed_writeMember hw' hname hstep hplain hfirst')
      (spread_writeMembers hw hsteps wireNames.2 hplains hothers)
      (spread_writeMembers hw' hsteps wireNames.2 hplains hothers') heq
    intro p hp
    rcases List.mem_cons.mp hp with rfl | hp
    · exact ⟨first, hfirst, hfirst'⟩
    · exact ih hsteps wireNames.2 hplains hothers hothers' p hp

/-- The entries of a structure whose values belong to its members and have no empty mappings. -/
structure Fits (g : Graph) (members : List (Member g.size)) (fields : List (String × Value)) :
    Prop where
  names : (fields.map Prod.fst).Nodup
  known : ∀ p ∈ fields, ∃ m ∈ members, m.name = p.1
  typed : ∀ p ∈ fields, ∀ m ∈ members, m.name = p.1 → WellTyped g (demands g) m.shape p.2
  filled : ∀ p ∈ fields, p.2.filled = true

namespace Fits

variable {members : List (Member g.size)} {fields fields' : List (String × Value)}
  {m : Member g.size} {path : Value} {params : Params}

theorem exists_of_wellTyped {r : g.Ref} {v : Value} (form : (g.shape r).form = .struct members)
    (h : WellTyped g (demands g) r v) (hv : v = .ofFields [] ∨ v.filled = true) :
    ∃ fields, v = .ofFields fields ∧ Fits g members fields := by
  obtain ⟨fields, rfl, names, known, typed⟩ := h.exists_fields form
  refine ⟨fields, rfl, names, known, typed, ?_⟩
  rcases hv with hv | hv
  · rw [Value.ofFields_injective hv]
    exact List.forall_mem_nil _
  · exact (Value.filled_ofFields hv).2

theorem lookup_eq_none (h : Fits g members fields) {name : String}
    (hname : ¬∃ m ∈ members, m.name = name) : fields.lookup name = none := by
  cases hl : fields.lookup name with
  | none => rfl
  | some x => exact absurd (h.known _ (Entries.mem_of_lookup hl)) hname

/-- A member without a value has no parameters. -/
theorem eq_nil (h : Fits g members fields) (hx : fields.lookup m.name = none)
    (hw : writeMember c g path ((Value.ofFields fields).view (write c g)) m = .ok params) :
    params = [] :=
  writeMember_of_lookup_none (WellTyped.fields_not_null h.known h.typed) hx hw

/-- A member with a value has parameters, which are those of the value. -/
theorem write_ne_nil (h : Fits g members fields) (hm : m ∈ members) {x : Value}
    (hx : fields.lookup m.name = some x)
    (hw : writeMember c g path ((Value.ofFields fields).view (write c g)) m = .ok params) :
    write c g x m.shape (joinPath path m.wireName) = .ok params ∧ params ≠ [] := by
  have hmem := Entries.mem_of_lookup hx
  have hwrite := writeMember_of_lookup (WellTyped.fields_not_null h.known h.typed) hx hw
  exact ⟨hwrite, FormBody.write_ne_nil (h.typed _ hmem m hm rfl) (h.filled _ hmem) hwrite⟩

end Fits

/-- Structures with the same parameters have the same members, each told by its own. -/
theorem alike_struct {r : g.Ref} {members : List (Member g.size)}
    (form : (g.shape r).form = .struct members) (plain : ∀ q, g.Leads r q → Plain (g.shape q))
    {fields fields' : List (String × Value)} (hf : Fits g members fields)
    (hf' : Fits g members fields')
    (told : ∀ p ∈ fields, ∀ m ∈ members, m.name = p.1 → Told c g m.shape p.2) {path : String}
    {params : Params}
    (h : writeMembers c g members (.str path) ((Value.ofFields fields).view (write c g)) =
      .ok params)
    (h' : writeMembers c g members (.str path) ((Value.ofFields fields').view (write c g)) =
      .ok params) :
    (Value.ofFields fields).Alike (.ofFields fields') := by
  have hmembers : (g.shape r).members = members := by rw [Shape.members, form]
  have hsteps := (plain r (.refl r)).members
  have hwire := (plain r (.refl r)).wireNames
  rw [hmembers] at hsteps hwire
  have hparts := exists_writeMember (Value.all_view names_write _) (Value.all_view names_write _)
    hsteps hwire (fun m hm q hq => plain q (hq.head (Graph.IsPart.member form hm))) h h'
  refine .of_lookup hf.names hf'.names fun name => ?_
  by_cases hname : ∃ m ∈ members, m.name = name
  · obtain ⟨m, hm, rfl⟩ := hname
    obtain ⟨first, hfirst, hfirst'⟩ := hparts m hm
    obtain ⟨htext, hstep⟩ := hsteps m hm
    cases hl : fields.lookup m.name with
    | none =>
      obtain rfl := hf.eq_nil hl hfirst
      cases hl' : fields'.lookup m.name with
      | none => exact .none
      | some x' => exact absurd rfl (hf'.write_ne_nil hm hl' hfirst').2
    | some x =>
      obtain ⟨hwrite, hne⟩ := hf.write_ne_nil hm hl hfirst
      cases hl' : fields'.lookup m.name with
      | none => exact absurd (hf'.eq_nil hl' hfirst') hne
      | some x' =>
        obtain ⟨hwrite', -⟩ := hf'.write_ne_nil hm hl' hfirst'
        have hmem := Entries.mem_of_lookup hl
        have hmem' := Entries.mem_of_lookup hl'
        rw [htext, joinPath_str] at hwrite hwrite'
        exact .some (told _ hmem m hm rfl x' (hf'.typed _ hmem' m hm rfl) (hf'.filled _ hmem') _
          (child_ne_empty path hstep) first hwrite hwrite')
  · rw [hf.lookup_eq_none hname, hf'.lookup_eq_none hname]
    exact .none

/-- Numbered parts with the same parameters are as many, and each has the same as its
counterpart. -/
theorem Numbered.forall₂ {α : Type} {path : String} {part : String → α → Params → Prop} {i : Nat}
    {items items' : List α} {params : Params} (h : Numbered path part i items params)
    (h' : Numbered path part i items' params)
    (hpart : ∀ a ∈ items, ∀ q, q ≠ "" → ∀ first, part q a first → Keyed q first ∧ first ≠ [])
    (hpart' : ∀ a ∈ items', ∀ q, q ≠ "" → ∀ first, part q a first → Keyed q first ∧ first ≠ []) :
    List.Forall₂ (fun a a' => ∃ q, q ≠ "" ∧ ∃ first, part q a first ∧ part q a' first)
      items items' := by
  induction h generalizing items' with
  | nil i =>
    generalize hnil : ([] : Params) = params at h'
    cases h' with
    | nil => exact .nil
    | cons head' tail' =>
      have hne := (hpart' _ (List.mem_cons_self ..) _ (child_ne_empty path (isStep_toString i)) _
        head').2
      exact absurd (List.append_eq_nil_iff.mp hnil.symm).1 hne
  | @cons i a rest first others head tail ih =>
    have hstep := isStep_toString i
    have hpath := child_ne_empty path hstep
    obtain ⟨hkeyed, hne⟩ := hpart a (List.mem_cons_self ..) _ hpath first head
    have hrest : ∀ a ∈ rest, ∀ q, q ≠ "" → ∀ first, part q a first → Keyed q first ∧ first ≠ [] :=
      fun a ha => hpart a (List.mem_cons_of_mem _ ha)
    generalize hall : first ++ others = params at h'
    cases h' with
    | nil => exact absurd (List.append_eq_nil_iff.mp hall).1 hne
    | @cons _ a' rest' first' others' head' tail' =>
      have hrest' : ∀ a ∈ rest', ∀ q, q ≠ "" → ∀ first, part q a first →
          Keyed q first ∧ first ≠ [] :=
        fun a ha => hpart' a (List.mem_cons_of_mem _ ha)
      obtain ⟨rfl, rfl⟩ := split (fun s hs => by
          obtain ⟨j, -, rfl⟩ := hs
          exact isStep_toString j) hstep (fun hs => by
          obtain ⟨j, hj, heq⟩ := hs
          have hij := toString_injective heq
          omega)
        hkeyed (hpart' a' (List.mem_cons_self ..) _ hpath first' head').1
        (tail.spread fun b hb q hq ps hps => (hrest b hb q hq ps hps).1)
        (tail'.spread fun b hb q hq ps hps => (hrest' b hb q hq ps hps).1) hall
      exact .cons ⟨_, hpath, first, head, head'⟩ (ih tail' hrest hrest')

theorem forall₂_imp_mem {α : Type} {R S : α → α → Prop} {items items' : List α}
    (h : List.Forall₂ R items items') (himp : ∀ a ∈ items, ∀ b ∈ items', R a b → S a b) :
    List.Forall₂ S items items' := by
  obtain ⟨hlength, hzip⟩ := List.forall₂_iff_zip.mp h
  refine List.forall₂_iff_zip.mpr ⟨hlength, fun {a b} hmem => ?_⟩
  obtain ⟨ha, hb⟩ := List.of_mem_zip hmem
  exact himp a ha b hb (hzip hmem)

/-- No numbered part is under the path of the whole. -/
theorem Spread.ne_path {n : Nat} {s : Shape n} {path tag : String} {steps : String → Prop}
    {params : Params} (h : Spread (trunk s path tag) steps params) (hpath : path ≠ "")
    (htag : IsStep tag) (text : String) : params ≠ [(.str path, text)] := by
  rintro rfl
  obtain ⟨step, -, name, hname, hbelow⟩ := h.below _ (List.mem_singleton_self _)
  obtain rfl := Value.str.inj hname
  exact not_below_child_trunk hpath htag step hbelow

/-- A value of a shape without empty mappings. -/
def Full (g : Graph) (r : g.Ref) (v : Value) : Prop :=
  WellTyped g (demands g) r v ∧ v.filled = true

theorem alike_list {r item : g.Ref} (form : (g.shape r).form = .list item)
    (plain : ∀ q, g.Leads r q → Plain (g.shape q)) {items items' : List Value}
    (full : ∀ v ∈ items, Full g item v) (full' : ∀ v ∈ items', Full g item v)
    (told : ∀ v ∈ items, Told c g item v) {path : String} (hpath : path ≠ "") {params : Params}
    (h : write c g (.list items) r (.str path) = .ok params)
    (h' : write c g (.list items') r (.str path) = .ok params) :
    (Value.list items).Alike (.list items') := by
  obtain ⟨htag, hstep⟩ := (plain r (.refl r)).item item form
  have htrunk := trunk_ne_empty (s := g.shape r) hpath hstep
  have hpart {vs : List Value} (full : ∀ v ∈ vs, Full g item v) :
      ∀ p ∈ vs.map (fun v => (v, write c g v)), ∀ q, q ≠ "" → ∀ first,
        IsItem g item q p first → Keyed q first ∧ first ≠ [] := by
    intro p hp q hq first hfirst
    obtain ⟨v, hv, rfl⟩ := List.mem_map.mp hp
    refine ⟨hfirst.keyed (names_write v) (fun t ht => ?_) hq,
      write_ne_nil (full v hv).1 (full v hv).2 hfirst⟩
    exact plain t (ht.head (Graph.IsPart.item form))
  rcases write_list form h with ⟨rfl, heq⟩ | ⟨-, hw⟩
  · rcases write_list form h' with ⟨rfl, -⟩ | ⟨-, hw'⟩
    · exact .refl _
    · rw [str_trunk _ path htag] at hw'
      have hspread := (numbered_writeItems htrunk hw').spread fun p hp q hq first hfirst =>
        (hpart full' p hp q hq first hfirst).1
      exact absurd heq (hspread.ne_path hpath hstep "")
  · rw [str_trunk _ path htag] at hw
    have hnumbered := numbered_writeItems htrunk hw
    rcases write_list form h' with ⟨rfl, heq⟩ | ⟨-, hw'⟩
    · have hspread := hnumbered.spread fun p hp q hq first hfirst =>
        (hpart full p hp q hq first hfirst).1
      exact absurd heq (hspread.ne_path hpath hstep "")
    · rw [str_trunk _ path htag] at hw'
      have hparts := hnumbered.forall₂ (numbered_writeItems htrunk hw') (hpart full) (hpart full')
      rw [List.forall₂_map_left_iff, List.forall₂_map_right_iff] at hparts
      refine .of_items (forall₂_imp_mem hparts ?_)
      rintro v hv v' hv' ⟨q, hq, first, hfirst, hfirst'⟩
      exact told v hv v' (full' v' hv').1 (full' v' hv').2 q hq first hfirst hfirst'

theorem alike_map {r key value : g.Ref} (form : (g.shape r).form = .map key value)
    (plain : ∀ q, g.Leads r q → Plain (g.shape q)) {fields fields' : List (String × Value)}
    (names : (fields.map Prod.fst).Nodup) (names' : (fields'.map Prod.fst).Nodup)
    (full' : ∀ p ∈ fields', Full g value p.2) (told : ∀ p ∈ fields, Told c g value p.2)
    {path : String} (hpath : path ≠ "") {params : Params}
    (h : write c g (.ofFields fields) r (.str path) = .ok params)
    (h' : write c g (.ofFields fields') r (.str path) = .ok params) :
    (Value.ofFields fields).Alike (.ofFields fields') := by
  have hself := plain r (.refl r)
  have hvalueStep := (hself.value key value form).2
  have htrunk := trunk_ne_empty (s := g.shape r) hpath isStep_entry
  have hw := write_map form h
  have hw' := write_map form h'
  rw [str_trunk _ path rfl] at hw hw'
  have hpart (entries : List (String × Value)) :
      ∀ p ∈ entries.map (fun p => (Value.str p.1, p.2, write c g p.2)), ∀ q, q ≠ "" → ∀ first,
        IsEntry g (g.shape r) value q p first → Keyed q first ∧ first ≠ [] := by
    intro p hp q hq first hfirst
    obtain ⟨e, he, rfl⟩ := List.mem_map.mp hp
    refine ⟨hfirst.keyed hself form (names_write e.2) (fun t ht => ?_) hq, ?_⟩
    · exact plain t (ht.head (Graph.IsPart.value form))
    · obtain ⟨-, -, -, -, rfl⟩ := hfirst
      exact List.cons_ne_nil _ _
  have hparts := (numbered_writeEntries hself form htrunk hw).forall₂
    (numbered_writeEntries hself form htrunk hw') (hpart fields) (hpart fields')
  rw [List.forall₂_map_left_iff, List.forall₂_map_right_iff] at hparts
  refine .of_entries names names' (forall₂_imp_mem hparts ?_)
  rintro p hp p' hp' ⟨q, hq, first, ⟨k, ps, hk, hps, rfl⟩, ⟨k', ps', hk', hps', heq⟩⟩
  obtain ⟨hkey, rfl⟩ := List.cons.inj heq
  obtain rfl : k = k' := (Prod.mk.inj hkey).2
  refine ⟨Value.str.inj (hk.trans hk'.symm), ?_⟩
  exact told p hp p'.2 (full' p' hp').1 (full' p' hp').2 _ (child_ne_empty q hvalueStep) ps hps hps'

/-- Scalars are told by their texts. -/
theorem eq_of_textOf {kind : ScalarKind} {v v' : Value} (typed : Scalar.OfKind kind v)
    (typed' : Scalar.OfKind kind v') (hexact : Scalar.Exact kind) {text : String}
    (h : Scalar.textOf .iso8601 kind v = .ok text)
    (h' : Scalar.textOf .iso8601 kind v' = .ok text) : v = v' := by
  obtain ⟨s, hs, hread⟩ := Scalar.exists_text typed hexact
  obtain ⟨s', hs', hread'⟩ := Scalar.exists_text typed' hexact
  obtain rfl : s = text := Except.ok.inj (hs.symm.trans h)
  obtain rfl : s' = s := Except.ok.inj (hs'.symm.trans h')
  exact Except.ok.inj (hread.symm.trans hread')

/-- A value without empty mappings is told from the others of its shape by its parameters. -/
theorem told_of_wellTyped {r : g.Ref} {v : Value} (h : WellTyped g (demands g) r v)
    (plain : ∀ q, g.Leads r q → Plain (g.shape q)) (hv : v.filled = true) : Told c g r v := by
  induction h with
  | struct form names known typed demands ih =>
    intro v' h' hv' path hpath params hw hw'
    obtain ⟨-, hfilled⟩ := Value.filled_ofFields hv
    obtain ⟨fields', rfl, hfits⟩ := Fits.exists_of_wellTyped form h' (.inr hv')
    refine alike_struct form plain ⟨names, known, typed, hfilled⟩ hfits (fun p hp m hm hname => ?_)
      (write_struct form hw) (write_struct form hw')
    exact ih p hp m hm hname (fun q hq => plain q (hq.head (Graph.IsPart.member form hm)))
      (hfilled p hp)
  | list form typed ih =>
    intro v' h' hv' path hpath params hw hw'
    have hfilled := Value.filled_list hv
    obtain ⟨items', rfl, typed'⟩ := h'.exists_items form
    have hfilled' := Value.filled_list hv'
    refine alike_list form plain (fun v hm => ⟨typed v hm, hfilled v hm⟩)
      (fun v hm => ⟨typed' v hm, hfilled' v hm⟩) (fun v hm => ?_) hpath hw hw'
    exact ih v hm (fun q hq => plain q (hq.head (Graph.IsPart.item form))) (hfilled v hm)
  | map form names typed ih =>
    intro v' h' hv' path hpath params hw hw'
    obtain ⟨-, hfilled⟩ := Value.filled_ofFields hv
    obtain ⟨fields', rfl, names', typed'⟩ := h'.exists_entries form
    obtain ⟨-, hfilled'⟩ := Value.filled_ofFields hv'
    refine alike_map form plain names names' (fun p hp => ⟨typed' p hp, hfilled' p hp⟩)
      (fun p hp => ?_) hpath hw hw'
    exact ih p hp (fun q hq => plain q (hq.head (Graph.IsPart.value form))) (hfilled p hp)
  | scalar form typed hexact =>
    intro v' h' hv' path hpath params hw hw'
    have typed' := h'.ofKind (by rw [Shape.kind, form]; rfl)
    obtain ⟨text, htext, rfl⟩ := write_scalar form hw
    obtain ⟨text', htext', heq⟩ := write_scalar form hw'
    obtain rfl : text = text' := by simpa using heq
    rw [eq_of_textOf typed typed' hexact htext htext']
    exact .refl _

/-- Structures without empty mappings in them that have the same parameters are the same. -/
theorem alike_of_toParams {r : g.Ref} {members : List (Member g.size)}
    (form : (g.shape r).form = .struct members) (plain : ∀ q, g.Leads r q → Plain (g.shape q))
    {v v' : Value} (h : WellTyped g (demands g) r v) (h' : WellTyped g (demands g) r v')
    (hv : v = .ofFields [] ∨ v.filled = true) (hv' : v' = .ofFields [] ∨ v'.filled = true) {path : String} {params : Params}
    (hw : toParams c g v r (.str path) none = .ok params)
    (hw' : toParams c g v' r (.str path) none = .ok params) : v.Alike v' := by
  obtain ⟨fields, rfl, hfits⟩ := Fits.exists_of_wellTyped form h hv
  obtain ⟨fields', rfl, hfits'⟩ := Fits.exists_of_wellTyped form h' hv'
  rw [toParams] at hw hw'
  simp only [form, Option.getD_none] at hw hw'
  refine alike_struct form plain hfits hfits' (fun p hp m hm hname => ?_) hw hw'
  exact told_of_wellTyped (hfits.typed p hp m hm hname)
    (fun q hq => plain q (hq.head (Graph.IsPart.member form hm))) (hfits.filled p hp)

end FormBody

end ServiceWire
