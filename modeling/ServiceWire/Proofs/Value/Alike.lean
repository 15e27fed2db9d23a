import ServiceWire.Proofs.Entries
import ServiceWire.Value.View

/-!
# Values that differ in the order of entries only

The order in which the entries of a mapping stand is kept, but it is no part of what the mapping
says. Two values are alike if they are equal but for that order, at any depth.
-/

namespace ServiceWire.Value

/-- Two values are equal, but for the order of the entries of mappings with text keys. -/
inductive Alike : Value → Value → Prop
  /-- A value is alike to itself, a number without digits too. -/
  | refl (v : Value) : Alike v v
  /-- Lists of one length are alike if their items are, place by place. -/
  | list {items others : List Value} (length : items.length = others.length)
      (each : ∀ p ∈ items.zip others, Alike p.1 p.2) : Alike (.list items) (.list others)
  /-- Mappings with the same names are alike if the values under each name are. -/
  | dict {fields others : List (String × Value)}
      (names : (fields.map Prod.fst).Perm (others.map Prod.fst))
      (each : ∀ p ∈ fields, ∀ q ∈ others, p.1 = q.1 → Alike p.2 q.2) :
      Alike (ofFields fields) (ofFields others)

theorem Alike.map_list {items : List Value} {f : Value → Value}
    (h : ∀ v ∈ items, Alike (f v) v) : Alike (.list (items.map f)) (.list items) := by
  refine .list (List.length_map _) fun p hp => ?_
  have hzip : (items.map f).zip (items.map id) = items.map fun v => (f v, v) := List.zip_map'
  rw [List.map_id] at hzip
  rw [hzip] at hp
  obtain ⟨v, hv, rfl⟩ := List.mem_map.mp hp
  exact h v hv

/-- A mapping made of parts in some order, whose values are alike to those of the parts. -/
theorem Alike.of_perm {α : Type} {parts : List α} {name : α → String} {value result : α → Value}
    {fields : List (String × Value)} (hn : (fields.map Prod.fst).Nodup)
    (hp : (parts.map fun a => (name a, value a)).Perm fields)
    (h : ∀ a ∈ parts, Alike (result a) (value a)) :
    Alike (ofFields (parts.map fun a => (name a, result a))) (ofFields fields) := by
  refine .dict ?_ fun p hpart q hq heq => ?_
  · have hnames := hp.map Prod.fst
    rw [List.map_map] at hnames ⊢
    exact hnames
  · obtain ⟨a, ha, rfl⟩ := List.mem_map.mp hpart
    have hmem : (name a, value a) ∈ fields := hp.subset (List.mem_map_of_mem ha)
    obtain rfl : (name a, value a) = q := List.inj_on_of_nodup_map hn hmem hq heq
    exact h a ha

theorem ofFields_injective {fields others : List (String × Value)}
    (h : ofFields fields = ofFields others) : fields = others := by
  refine List.map_injective_iff.mpr ?_ (Value.dict.inj h)
  rintro ⟨k, v⟩ ⟨k', v'⟩ heq
  cases heq
  rfl

/-- Mappings that are alike have the same names. -/
theorem Alike.names_perm {fields others : List (String × Value)}
    (h : Alike (ofFields fields) (ofFields others)) :
    (fields.map Prod.fst).Perm (others.map Prod.fst) := by
  generalize hv : ofFields fields = v at h
  generalize hw : ofFields others = w at h
  cases h with
  | refl => rw [ofFields_injective (hv.trans hw.symm)]
  | list => cases hv
  | dict names => rwa [ofFields_injective hv, ofFields_injective hw]

/-- What mappings that are alike have under the same name is alike. -/
theorem Alike.each {fields others : List (String × Value)}
    (h : Alike (ofFields fields) (ofFields others)) (names : (fields.map Prod.fst).Nodup)
    {p q : String × Value} (hp : p ∈ fields) (hq : q ∈ others) (name : p.1 = q.1) :
    Alike p.2 q.2 := by
  generalize hv : ofFields fields = v at h
  generalize hw : ofFields others = w at h
  cases h with
  | refl =>
    obtain rfl := ofFields_injective (hv.trans hw.symm)
    obtain rfl : p = q := List.inj_on_of_nodup_map names hp hq name
    exact .refl p.2
  | list => cases hv
  | dict _ each =>
    obtain rfl := ofFields_injective hv
    obtain rfl := ofFields_injective hw
    exact each p hp q hq name

/-- Only a text itself is alike to it. -/
theorem Alike.eq_of_str {s t : String} (h : Alike (.str s) (.str t)) : s = t := by
  cases h
  rfl

/-- Lists are alike if their items are, one by one. -/
theorem Alike.of_items {items others : List Value} (h : List.Forall₂ Alike items others) :
    Alike (.list items) (.list others) :=
  .list h.length_eq fun _ hp => (List.forall₂_iff_zip.mp h).2 hp

/-- Mappings are alike if they have the same names and what is under these is alike. -/
theorem Alike.of_lookup {fields others : List (String × Value)}
    (names : (fields.map Prod.fst).Nodup) (names' : (others.map Prod.fst).Nodup)
    (h : ∀ name, Option.Rel Alike (fields.lookup name) (others.lookup name)) :
    Alike (ofFields fields) (ofFields others) := by
  refine .dict ((List.perm_ext_iff_of_nodup names names').mpr fun name => ?_)
    fun p hp q hq heq => ?_
  · have hrel := h name
    rw [Entries.mem_keys_iff, Entries.mem_keys_iff]
    generalize fields.lookup name = x at hrel ⊢
    generalize others.lookup name = y at hrel ⊢
    cases hrel with
    | none => exact Iff.rfl
    | some _ => exact Iff.rfl
  · have hrel := h p.1
    rw [Entries.lookup_of_mem names hp, heq, Entries.lookup_of_mem names' hq] at hrel
    cases hrel with
    | some halike => exact halike

/-- Mappings are alike if their entries are, one by one. -/
theorem Alike.of_entries {fields others : List (String × Value)}
    (names : (fields.map Prod.fst).Nodup) (names' : (others.map Prod.fst).Nodup)
    (h : List.Forall₂ (fun p q => p.1 = q.1 ∧ Alike p.2 q.2) fields others) :
    Alike (ofFields fields) (ofFields others) := by
  refine .of_lookup names names' fun name => ?_
  clear names names'
  induction h with
  | nil => exact .none
  | @cons p q _ _ hpq _ ih =>
    rw [List.lookup_cons, List.lookup_cons, hpq.1]
    cases name == q.1 with
    | true => exact .some hpq.2
    | false => exact ih

/-- What is alike to a list is a list of the same length. -/
theorem Alike.of_list {items : List Value} {v : Value} (h : Alike (.list items) v) :
    ∃ others, v = .list others ∧ List.Forall₂ Alike items others := by
  generalize hw : Value.list items = w at h
  cases h with
  | refl => exact ⟨items, hw.symm, List.forall₂_same.mpr fun v _ => .refl v⟩
  | list length each =>
    cases hw
    exact ⟨_, rfl, List.forall₂_iff_zip.mpr ⟨length, fun hp => each _ hp⟩⟩
  | dict => cases hw

theorem Alike.trans {u v w : Value} (h : Alike u v) (h' : Alike v w) : Alike u w := by
  induction h generalizing w with
  | refl v => exact h'
  | @list items others length each ih =>
    obtain ⟨last, rfl, hlast⟩ := h'.of_list
    refine .list (length.trans hlast.length_eq) fun p hp => ?_
    obtain ⟨i, hi, rfl⟩ := List.mem_iff_getElem.mp hp
    rw [List.length_zip, Nat.lt_min] at hi
    rw [List.getElem_zip]
    have hother : i < others.length := length ▸ hi.1
    refine ih (items[i], others[i]) ?_ ?_
    · rw [← List.getElem_zip (h := by rw [List.length_zip, Nat.lt_min]; exact ⟨hi.1, hother⟩)]
      exact List.getElem_mem _
    · exact hlast.get hother hi.2
  | @dict fields others names each ih =>
    generalize hv : ofFields others = v at h'
    cases h' with
    | refl =>
      rw [← hv]
      exact .dict names each
    | list => cases hv
    | @dict fields' last names' each' =>
      obtain rfl := ofFields_injective hv
      refine .dict (names.trans names') fun p hp q hq heq => ?_
      have hmem : p.1 ∈ others.map Prod.fst := names.subset (List.mem_map_of_mem hp)
      obtain ⟨o, ho, hname⟩ := List.mem_map.mp hmem
      exact ih p hp o ho hname.symm (each' o ho q hq (hname.trans heq))

/-! ### Views of lists and of mappings with text keys -/

variable {ρ : Type} (r : Value → ρ)

theorem whole_view (v : Value) : (v.view r).whole = v := rfl

theorem items?_view_list (items : List Value) :
    ((Value.list items).view r).items? = some (items.map fun v => (v, r v)) := rfl

theorem listItems?_view_list (items : List Value) :
    ((Value.list items).view r).listItems? = some (items.map fun v => (v, r v)) := rfl

theorem entries?_view_dict (entries : List (Value × Value)) :
    ((Value.dict entries).view r).entries? = some (entries.map fun p => (p.1, p.2, r p.2)) := rfl

theorem entries?_view_ofFields (fields : List (String × Value)) :
    ((ofFields fields).view r).entries? =
      some (fields.map fun p => (.str p.1, p.2, r p.2)) := by
  rw [ofFields, entries?_view_dict, List.map_map]
  rfl

theorem lookup_view_entries (name : String) (entries : List (Value × Value)) :
    View.lookup name (entries.map fun p => (p.1, p.2, r p.2)) =
      (lookupText name entries).map fun v => (v, r v) := by
  fun_induction lookupText name entries with
  | case1 => rfl
  | case2 k v rest heq =>
    rw [List.map_cons, View.lookup, if_pos heq]
    rfl
  | case3 k v rest hne ih =>
    rw [List.map_cons, View.lookup, if_neg hne]
    exact ih
  | case4 p rest hkey ih =>
    rw [List.map_cons, View.lookup]
    · exact ih
    · exact fun k q heq => hkey k p.2 (Prod.ext (Prod.ext_iff.mp heq).1 rfl)

theorem lookupText_fields (name : String) (fields : List (String × Value)) :
    lookupText name (fields.map fun p => (.str p.1, p.2)) = fields.lookup name := by
  induction fields with
  | nil => rfl
  | cons p rest ih =>
    rw [List.map_cons, lookupText, List.lookup_cons, ih, BEq.comm]
    cases name == p.1 with
    | true => rfl
    | false => rfl

theorem get?_eq_lookupText (v : Value) (name : String) :
    v.get? name = lookupText name v.named := by
  cases v with
  | dict entries => rfl
  | object attributes => exact (lookupText_fields name attributes).symm
  | typed shape members => exact (lookupText_fields name members).symm
  | _ => rfl

theorem get?_ofFields (fields : List (String × Value)) (name : String) :
    (ofFields fields).get? name = fields.lookup name :=
  lookupText_fields name fields

/-- The member of a value, if there is one and it is not null. -/
theorem member?_view (v : Value) (name : String) :
    (v.view r).member? name = ((v.get? name).filter fun x => !x.isNull).map fun x => (x, r x) := by
  rw [View.member?, view, lookup_view_entries, ← get?_eq_lookupText]
  cases v.get? name with
  | none => rfl
  | some x =>
    rw [Option.map_some, Option.filter_some, Option.filter_some]
    cases x.isNull with
    | true => rfl
    | false => rfl

/-- The member of a mapping without nulls. -/
theorem member?_view_ofFields {fields : List (String × Value)}
    (h : ∀ p ∈ fields, p.2.isNull = false) (name : String) :
    ((ofFields fields).view r).member? name = (fields.lookup name).map fun v => (v, r v) := by
  rw [member?_view, get?_ofFields]
  cases hl : fields.lookup name with
  | none => rfl
  | some v =>
    have hv : v.isNull = false := h _ (Entries.mem_of_lookup hl)
    rw [Option.filter_some, hv, Bool.not_false, if_pos rfl]

end ServiceWire.Value

/-!
## Fields that say the same

The fields of a structure are collected one after the other, or taken from several places. Two
collections say the same if under each name both have nothing, or values that are alike; they may
differ in order. What is put into both in the same way keeps them so.
-/

namespace ServiceWire

open Value (Alike)

/-- Fields without repeated names that say the same. -/
structure SameFields (fields others : List (String × Value)) : Prop where
  names : (fields.map Prod.fst).Nodup
  names' : (others.map Prod.fst).Nodup
  each : ∀ name, Option.Rel Alike (fields.lookup name) (others.lookup name)

/-- A field that stands for another. -/
def SameField (p q : String × Value) : Prop := p.1 = q.1 ∧ Alike p.2 q.2

theorem SameField.refl (p : String × Value) : SameField p p := ⟨rfl, .refl p.2⟩

/-- Fields that stand for others one by one have their names. -/
theorem SameField.names_eq {fields others : List (String × Value)}
    (h : List.Forall₂ SameField fields others) :
    fields.map Prod.fst = others.map Prod.fst := by
  induction h with
  | nil => rfl
  | cons hpq _ ih => rw [List.map_cons, List.map_cons, hpq.1, ih]

namespace SameFields

variable {fields others last more more' : List (String × Value)}

theorem refl (h : (fields.map Prod.fst).Nodup) : SameFields fields fields := by
  refine ⟨h, h, fun name => ?_⟩
  cases fields.lookup name with
  | none => exact .none
  | some v => exact .some (.refl v)

theorem nil : SameFields [] [] := .refl List.nodup_nil

theorem of_perm (hn : (fields.map Prod.fst).Nodup) (h : fields.Perm others) :
    SameFields fields others := by
  refine ⟨hn, (h.map Prod.fst).nodup_iff.mp hn, fun name => ?_⟩
  rw [← Entries.lookup_eq_of_perm hn h]
  exact (refl hn).each name

theorem trans (h : SameFields fields others) (h' : SameFields others last) :
    SameFields fields last := by
  refine ⟨h.names, h'.names', fun name => ?_⟩
  have hfirst := h.each name
  have hlast := h'.each name
  generalize fields.lookup name = x at hfirst ⊢
  generalize others.lookup name = y at hfirst hlast
  generalize last.lookup name = z at hlast ⊢
  cases hfirst with
  | none => exact hlast
  | some halike =>
    cases hlast with
    | some halike' => exact .some (halike.trans halike')

/-- Mappings with fields that say the same are alike. -/
theorem alike (h : SameFields fields others) : Alike (.ofFields fields) (.ofFields others) :=
  .of_lookup h.names h.names' h.each

theorem put (h : SameFields fields others) {p q : String × Value} (hpq : SameField p q) :
    SameFields (Entries.put p.1 p.2 fields) (Entries.put q.1 q.2 others) := by
  refine ⟨Entries.nodup_put h.names .., Entries.nodup_put h.names' .., fun name => ?_⟩
  rw [Entries.lookup_put, Entries.lookup_put, hpq.1]
  cases name == q.1 with
  | true => exact .some hpq.2
  | false => exact h.each name

/-- Fields that are put one by one say the same if each stands for another. -/
theorem putEach (h : SameFields fields others) (hmore : List.Forall₂ SameField more more') :
    SameFields (Entries.putAll fields more) (Entries.putAll others more') := by
  induction hmore generalizing fields others with
  | nil => exact h
  | cons hpq _ ih => exact ih (h.put hpq)

theorem putAll (h : SameFields fields others) (hmore : SameFields more more') :
    SameFields (Entries.putAll fields more) (Entries.putAll others more') := by
  refine ⟨Entries.nodup_putAll h.names .., Entries.nodup_putAll h.names' .., fun name => ?_⟩
  have hnames : (more.reverse.map Prod.fst).Nodup := by
    rw [List.map_reverse]
    exact List.nodup_reverse.mpr hmore.names
  have hnames' : (more'.reverse.map Prod.fst).Nodup := by
    rw [List.map_reverse]
    exact List.nodup_reverse.mpr hmore.names'
  rw [Entries.lookup_putAll, Entries.lookup_putAll,
    Entries.lookup_eq_of_perm hnames more.reverse_perm,
    Entries.lookup_eq_of_perm hnames' more'.reverse_perm]
  have heach := hmore.each name
  generalize more.lookup name = x at heach ⊢
  generalize more'.lookup name = y at heach ⊢
  cases heach with
  | none => exact h.each name
  | some halike => exact .some halike

end SameFields

end ServiceWire
