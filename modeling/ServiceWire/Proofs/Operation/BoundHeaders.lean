import ServiceWire.Proofs.Endpoint.Suffix
import ServiceWire.Proofs.Operation.HeaderFields
import ServiceWire.Proofs.Operation.RequestUrl

/-!
# Header fields beside a body

The members in the header are put into the header fields of a request before its body is written,
and the body has at most one field to add: the content type. A body of a payload member adds it only
if no field has this very name, a body of members always, and any other body never. So every field
of a member stays as it is, but for a member with the name `Content-Type` beside a body of members.
The names stay different in more than case as long as no member gives the name of the content type
another spelling.
-/

namespace ServiceWire

namespace Entries

variable {ν : Type}

theorem textKeys_putNew (name : String) (x : ν) (fields : List (String × ν)) :
    putNew (.str name) x (textKeys fields) = textKeys (putNew name x fields) := by
  unfold putNew
  rw [lookup_textKeys]
  cases fields.lookup name with
  | some y => rfl
  | none =>
    unfold textKeys
    rw [List.map_append]
    rfl

theorem keys_put (name : String) (x : ν) (fields : List (String × ν)) :
    (put name x fields).map Prod.fst =
      if name ∈ fields.map Prod.fst then fields.map Prod.fst
      else fields.map Prod.fst ++ [name] := by
  induction fields with
  | nil => rfl
  | cons p rest ih =>
    obtain ⟨key, y⟩ := p
    by_cases h : key = name
    · simp [put, h]
    · simp only [put, beq_iff_eq, h, if_false, List.map_cons, ih, List.mem_cons, Ne.symm h,
        false_or]
      split
      · rfl
      · rfl

theorem keys_putNew (name : String) (x : ν) (fields : List (String × ν)) :
    (putNew name x fields).map Prod.fst =
      if name ∈ fields.map Prod.fst then fields.map Prod.fst
      else fields.map Prod.fst ++ [name] := by
  by_cases h : name ∈ fields.map Prod.fst
  · rw [if_pos h]
    obtain ⟨y, hy⟩ := Option.isSome_iff_exists.mp (mem_keys_iff.mp h)
    unfold putNew
    rw [hy]
  · rw [if_neg h]
    have hnone : fields.lookup name = none := by
      rw [mem_keys_iff, Bool.not_eq_true, Option.isSome_eq_false_iff,
        Option.isNone_iff_eq_none] at h
      exact h
    unfold putNew
    rw [hnone]
    simp

end Entries

theorem nodup_keys_of_nodup_lower {fields : List (String × String)}
    (h : (fields.map fun p => Text.lower p.1).Nodup) : (fields.map Prod.fst).Nodup := by
  refine List.Nodup.of_map Text.lower ?_
  rw [List.map_map]
  exact h

/-- One more name leaves names different in more than case, unless it is another spelling of one of
them. -/
theorem nodup_lower_iff {names : List String} (h : (names.map Text.lower).Nodup) (name : String) :
    ((if name ∈ names then names else names ++ [name]).map Text.lower).Nodup ↔
      ¬∃ other ∈ names, Text.lower other = Text.lower name ∧ other ≠ name := by
  by_cases hname : name ∈ names
  · rw [if_pos hname]
    refine iff_of_true h ?_
    rintro ⟨other, hother, hlower, hne⟩
    exact hne (List.inj_on_of_nodup_map h hother hname hlower)
  · rw [if_neg hname, List.map_append, List.nodup_append]
    constructor
    · rintro ⟨-, -, hapart⟩ ⟨other, hother, hlower, -⟩
      exact hapart _ (List.mem_map_of_mem hother) _ (List.mem_singleton.mpr rfl) hlower
    · intro hnone
      refine ⟨h, List.nodup_singleton _, ?_⟩
      rintro _ hmem _ hlast rfl
      obtain ⟨other, hother, hlower⟩ := List.mem_map.mp hmem
      refine hnone ⟨other, hother, hlower.trans (List.mem_singleton.mp hlast), ?_⟩
      rintro rfl
      exact hname hother

namespace RequestWriter

variable {g : Graph} {w : RequestWriter g} {v : Value} {q r : Http.Request}
  {members : List (Member g.size)}

/-! ### Members in the header -/

/-- The members that a request has in its header, with their values, in declaration order. -/
def presentHeaders (members : List (Member g.size)) (v : Value) : List (Member g.size × Value) :=
  members.filterMap fun m =>
    if m.location = .header then (valueOf v m.name).map fun x => (m, x) else none

theorem presentHeaders_cons (m : Member g.size) (rest : List (Member g.size)) (v : Value) :
    presentHeaders (m :: rest) v = presentHeaders [m] v ++ presentHeaders rest v :=
  List.filterMap_append (l := [m])

theorem mem_presentHeaders_iff {m : Member g.size} {x : Value} :
    (m, x) ∈ presentHeaders members v ↔
      m ∈ members ∧ m.location = .header ∧ valueOf v m.name = some x := by
  unfold presentHeaders
  rw [List.mem_filterMap]
  constructor
  · rintro ⟨m', hm', h⟩
    split at h
    · rename_i hlocation
      obtain ⟨y, hy, heq⟩ := Option.map_eq_some_iff.mp h
      cases heq
      exact ⟨hm', hlocation, hy⟩
    · cases h
  · rintro ⟨hm, hlocation, hx⟩
    exact ⟨m, hm, by simp [hlocation, hx]⟩

/-- The header fields of members, a list for each member. -/
def memberFields (members : List (Member g.size)) (v : Value) :
    Except Failure (List (List (Value × String))) :=
  (presentHeaders members v).mapM fun p => headerFields p.1 p.2

theorem memberFields_cons {m : Member g.size} {rest : List (Member g.size)}
    {first others : List (List (Value × String))} (h : memberFields [m] v = .ok first)
    (h' : memberFields rest v = .ok others) :
    memberFields (m :: rest) v = .ok (first ++ others) := by
  unfold memberFields at h h' ⊢
  rw [presentHeaders_cons, List.mapM_append, h, ok_bind, h']
  rfl

/-- A member puts its fields, if it is in the header, among those before it. -/
theorem headers_of_bind {m : Member g.size} {b b' : Bound} (h : bind v b m = .ok b') :
    ∃ fields, memberFields [m] v = .ok fields ∧
      b'.headers = Entries.putAll b.headers fields.flatten := by
  have hskip (hnone : presentHeaders [m] v = []) (hheaders : b'.headers = b.headers) :
      ∃ fields, memberFields [m] v = .ok fields ∧
        b'.headers = Entries.putAll b.headers fields.flatten :=
    ⟨[], by rw [memberFields, hnone]; rfl, hheaders⟩
  unfold bind at h
  cases hvalue : valueOf v m.name with
  | none =>
    rw [hvalue] at h
    cases h
    exact hskip (by simp [presentHeaders, hvalue]) rfl
  | some x =>
    rw [hvalue] at h
    dsimp only at h
    cases hlocation : m.location with
    | header =>
      rw [hlocation] at h
      obtain ⟨fields, hfields, heq⟩ := exists_of_bind h
      cases heq
      refine ⟨[fields], ?_, by rw [List.flatten_singleton]⟩
      have hone : presentHeaders [m] v = [(m, x)] := by
        simp [presentHeaders, hvalue, hlocation]
      rw [memberFields, hone, List.mapM_cons, hfields]
      rfl
    | uri =>
      rw [hlocation] at h
      obtain ⟨s, -, h⟩ := exists_of_bind h
      obtain ⟨labels, -, heq⟩ := exists_of_bind h
      cases heq
      exact hskip (by simp [presentHeaders, hlocation]) rfl
    | query =>
      rw [hlocation] at h
      obtain ⟨params, -, heq⟩ := exists_of_bind h
      cases heq
      exact hskip (by simp [presentHeaders, hlocation]) rfl
    | body | statusCode =>
      rw [hlocation] at h
      cases h
      exact hskip (by simp [presentHeaders, hlocation]) rfl

/-- The fields of all members are put beside each other in declaration order. -/
theorem headers_of_foldlM_bind {b b' : Bound} (h : members.foldlM (bind v) b = .ok b') :
    ∃ fields, memberFields members v = .ok fields ∧
      b'.headers = Entries.putAll b.headers fields.flatten := by
  induction members generalizing b with
  | nil =>
    cases h
    exact ⟨[], rfl, rfl⟩
  | cons m rest ih =>
    rw [List.foldlM_cons] at h
    obtain ⟨b₁, hstep, hrest⟩ := exists_of_bind h
    obtain ⟨first, hfirst, hb₁⟩ := headers_of_bind hstep
    obtain ⟨others, hothers, hb'⟩ := ih hrest
    refine ⟨first ++ others, memberFields_cons hfirst hothers, ?_⟩
    rw [hb', hb₁, List.flatten_append]
    unfold Entries.putAll
    rw [List.foldl_append]

theorem headers_of_bound (binds : w.protocol.bindsLocations = true) {b : Bound}
    (h : w.bound v = .ok b) :
    ∃ fields, memberFields w.inputMembers v = .ok fields ∧
      b.headers = Entries.putAll [] fields.flatten := by
  unfold bound at h
  unfold inputMembers
  cases hinput : w.operation.input with
  | none =>
    rw [hinput] at h
    cases h
    exact ⟨[], rfl, rfl⟩
  | some r =>
    rw [hinput] at h
    dsimp only at h
    rw [if_pos binds] at h
    exact headers_of_foldlM_bind h

/-! ### Fields apart from each other -/

/-- Header fields that are told apart by their names, whatever their case: each member has one, and
its name is a text. -/
structure HeadersApart (g : Graph) (members : List (Member g.size)) : Prop where
  single : ∀ m ∈ members, m.location = .header → (g.shape m.shape).kind ≠ .map
  texts : ∀ m ∈ members, m.location = .header → m.wireName = .str m.wireName.text
  names : ((members.filter fun m => m.location == .header).map
    fun m => Text.lower m.wireName.text).Nodup

/-- What a field says for a member with a value. -/
def Says (p : Member g.size × Value) (field : String × String) : Prop :=
  field.1 = p.1.wireName.text ∧ headerFields p.1 p.2 = .ok [(.str field.1, field.2)]

/-- A member that is no map has one field, by its name. -/
theorem exists_field {m : Member g.size} {x : Value} {fields : List (Value × String)}
    (single : (g.shape m.shape).kind ≠ .map) (text : m.wireName = .str m.wireName.text)
    (h : headerFields m x = .ok fields) :
    ∃ field, Says (m, x) field ∧ fields = textKeys [field] := by
  have hkey : m.wireName.asKey = .ok (.str m.wireName.text) := by
    rw [text, Value.asKey_str]
    rfl
  have hfield {s : String} (hs : fields = [(.str m.wireName.text, s)]) :
      ∃ field, Says (m, x) field ∧ fields = textKeys [field] :=
    ⟨(m.wireName.text, s), ⟨rfl, by rw [h, hs]⟩, hs⟩
  have hrun := h
  unfold headerFields at hrun
  split at hrun
  · rename_i hform
    exact absurd (by rw [Shape.kind, hform]; rfl) single
  · obtain ⟨items, -, hrun⟩ := exists_of_bind hrun
    obtain ⟨texts, -, hrun⟩ := exists_of_bind hrun
    rw [hkey, ok_bind] at hrun
    exact hfield (Except.ok.inj hrun).symm
  · obtain ⟨s, -, hrun⟩ := exists_of_bind hrun
    rw [hkey, ok_bind] at hrun
    exact hfield (Except.ok.inj hrun).symm

theorem exists_sent (h : HeadersApart g members) {fields : List (List (Value × String))}
    (hfields : memberFields members v = .ok fields) :
    ∃ sent, fields.flatten = textKeys sent ∧
      List.Forall₂ Says (presentHeaders members v) sent := by
  have hplain : ∀ p ∈ presentHeaders members v,
      (g.shape p.1.shape).kind ≠ .map ∧ p.1.wireName = .str p.1.wireName.text := by
    rintro ⟨m, x⟩ hp
    obtain ⟨hm, hlocation, -⟩ := mem_presentHeaders_iff.mp hp
    exact ⟨h.single m hm hlocation, h.texts m hm hlocation⟩
  have hall := forall₂_of_mapM hfields
  generalize presentHeaders members v = present at hplain hall ⊢
  clear hfields
  induction hall with
  | nil => exact ⟨[], rfl, .nil⟩
  | @cons p own present others hown _ ih =>
    obtain ⟨single, text⟩ := hplain p (List.mem_cons_self ..)
    obtain ⟨field, hsaid, rfl⟩ := exists_field single text hown
    obtain ⟨sent, hsent, hrest⟩ := ih fun p' hp' => hplain p' (List.mem_cons_of_mem _ hp')
    refine ⟨field :: sent, ?_, .cons hsaid hrest⟩
    rw [List.flatten_cons, hsent]
    rfl

theorem sublist_presentHeaders (members : List (Member g.size)) (v : Value) :
    ((presentHeaders members v).map Prod.fst).Sublist
      (members.filter fun m => m.location == .header) := by
  unfold presentHeaders
  induction members with
  | nil => exact List.nil_sublist _
  | cons m rest ih =>
    rw [List.filterMap_cons, List.filter_cons]
    by_cases hlocation : m.location = .header
    · cases hx : valueOf v m.name with
      | none => simpa [hlocation] using ih.cons m
      | some x => simpa [hlocation] using ih
    · simpa [hlocation] using ih

/-- The names of the fields of members are different in more than case. -/
theorem nodup_presentHeaders (h : HeadersApart g members) (v : Value) :
    ((presentHeaders members v).map fun p => Text.lower p.1.wireName.text).Nodup := by
  have hsublist := (sublist_presentHeaders members v).map fun m => Text.lower m.wireName.text
  rw [List.map_map] at hsublist
  exact h.names.sublist hsublist

/-! ### The content type -/

/-- How a body treats the content type among the header fields. -/
inductive TypeRule
  /-- It leaves the fields as they are. -/
  | untouched
  /-- It adds its type, unless there is a field of that name. -/
  | byDefault
  /-- It puts its type, in the place of one that is there. -/
  | always
deriving DecidableEq

/-- The fields with the content type of a body. -/
def TypeRule.apply {κ : Type} [BEq κ] (rule : TypeRule) (name : κ) (type : String)
    (fields : List (κ × String)) : List (κ × String) :=
  match rule with
  | .untouched => fields
  | .byDefault => Entries.putNew name type fields
  | .always => Entries.put name type fields

namespace TypeRule

variable (rule : TypeRule) (name type : String) (fields : List (String × String))

theorem apply_textKeys :
    rule.apply (.str name) type (textKeys fields) = textKeys (rule.apply name type fields) := by
  cases rule with
  | untouched => rfl
  | byDefault => exact Entries.textKeys_putNew name type fields
  | always => exact Entries.put_textKeys name type fields

variable {fields}

/-- A field stays as it is, unless it has the name of the content type and that is put always. -/
theorem lookup_apply {key text : String} (h : fields.lookup key = some text) :
    (rule.apply name type fields).lookup key =
      some (if key = name ∧ rule = .always then type else text) := by
  cases rule with
  | untouched => simpa [apply] using h
  | byDefault => simp [apply, Entries.lookup_putNew, h]
  | always => by_cases hkey : key = name <;> simp [apply, Entries.lookup_put, hkey, h]

variable {rule}

theorem keys_apply (h : rule ≠ .untouched) :
    (rule.apply name type fields).map Prod.fst =
      if name ∈ fields.map Prod.fst then fields.map Prod.fst
      else fields.map Prod.fst ++ [name] := by
  cases rule with
  | untouched => exact absurd rfl h
  | byDefault => exact Entries.keys_putNew name type fields
  | always => exact Entries.keys_put name type fields

/-- The names stay different in more than case, unless one of them is another spelling of that of
the content type. -/
theorem nodup_apply_iff (names : (fields.map fun p => Text.lower p.1).Nodup) :
    ((rule.apply name type fields).map fun p => Text.lower p.1).Nodup ↔
      rule = .untouched ∨
        ¬∃ p ∈ fields, Text.lower p.1 = Text.lower name ∧ p.1 ≠ name := by
  have hmap (fields : List (String × String)) :
      fields.map (fun p => Text.lower p.1) = (fields.map Prod.fst).map Text.lower := by
    rw [List.map_map]
    rfl
  by_cases h : rule = .untouched
  · rw [h]
    exact iff_of_true names (.inl rfl)
  · rw [hmap] at names
    rw [hmap, keys_apply name type h, nodup_lower_iff names]
    simp [h]

end TypeRule

/-- How the body of a request treats the content type: a structure that is the whole body has it by
default, a body of members always. -/
def bodyType (w : RequestWriter g) (v : Value) : TypeRule :=
  match w.operation.input with
  | none => .untouched
  | some s =>
    if w.operation.explicitPayload then
      match (g.shape s).payloadMember? with
      | some m =>
        if (valueOf v m.name).isSome ∧ (g.shape m.shape).kind = .struct ∧
            (g.shape m.shape).streaming = false then .byDefault
        else .untouched
      | none => .untouched
    else if w.operation.payloadMembers then .always else .untouched

theorem headers_of_withPayload {m : Member g.size} (h : w.withPayload v m r = .ok q) :
    q.headers = (if (valueOf v m.name).isSome ∧ (g.shape m.shape).kind = .struct ∧
        (g.shape m.shape).streaming = false then TypeRule.byDefault else .untouched).apply
      (.str contentTypeField) w.codec.format.contentType r.headers := by
  unfold withPayload at h
  cases hvalue : valueOf v m.name with
  | none =>
    rw [hvalue] at h
    cases h
    rfl
  | some x =>
    rw [hvalue] at h
    dsimp only at h
    have hkept (hkind : (g.shape m.shape).kind = .struct → (g.shape m.shape).streaming = true)
        (hq : q.headers = r.headers) :
        q.headers = (if (some x).isSome ∧ (g.shape m.shape).kind = .struct ∧
            (g.shape m.shape).streaming = false then TypeRule.byDefault else .untouched).apply
          (.str contentTypeField) w.codec.format.contentType r.headers := by
      rw [if_neg (by grind), hq]
      rfl
    split at h
    · rename_i hraw
      have hkind : (g.shape m.shape).kind = .struct → (g.shape m.shape).streaming = true := by
        grind
      refine hkept hkind ?_
      split at h
      · cases h
        rfl
      · cases h
        rfl
      · split at h <;> cases h
        rfl
      · split at h <;> cases h
        rfl
    · rename_i hraw
      split at h
      · rename_i hkind
        refine hkept (by simp [hkind]) ?_
        split at h <;> cases h
        rfl
      · rename_i hkind
        obtain ⟨data, -, h⟩ := exists_of_bind h
        cases h
        rw [if_pos ⟨rfl, hkind, by simpa using fun hs => hraw (.inr hs)⟩]
        rfl
      · cases h

/-- A body adds nothing to the header fields but its content type. -/
theorem headers_of_withRestBody (h : w.withRestBody v r = .ok q) :
    q.headers = (w.bodyType v).apply (.str contentTypeField) w.codec.format.contentType
      r.headers := by
  unfold withRestBody at h
  unfold bodyType
  cases hinput : w.operation.input with
  | none =>
    rw [hinput] at h
    cases h
    rfl
  | some s =>
    rw [hinput] at h
    dsimp only at h ⊢
    split at h
    · rename_i hpayload
      rw [if_pos hpayload]
      cases hm : (g.shape s).payloadMember? with
      | some m =>
        rw [hm] at h
        exact headers_of_withPayload h
      | none =>
        rw [hm] at h
        cases h
    · rename_i hpayload
      rw [if_neg hpayload]
      split at h
      · rename_i hmembers
        rw [if_pos hmembers]
        obtain ⟨data, -, h⟩ := exists_of_bind h
        cases h
        rfl
      · rename_i hmembers
        rw [if_neg hmembers]
        cases h
        rfl

/-! ### The whole request -/

theorem map_fst_of_fields {present : List (Member g.size × Value)} {sent : List (String × String)}
    (h : List.Forall₂ Says present sent) :
    sent.map Prod.fst = present.map fun p => p.1.wireName.text := by
  induction h with
  | nil => rfl
  | cons hsaid _ ih => rw [List.map_cons, List.map_cons, hsaid.1, ih]

/-- The header fields of a request are those of its members in the header, with the content type as
the body treats it. -/
theorem exists_headers_of_write (binds : w.protocol.bindsLocations = true)
    (apart : HeadersApart g w.inputMembers) (h : (w.write v).1 = .ok q) :
    ∃ sent, List.Forall₂ Says (presentHeaders w.inputMembers v) sent ∧
      (sent.map fun p => Text.lower p.1).Nodup ∧
      q.headers =
        textKeys ((w.bodyType v).apply contentTypeField w.codec.format.contentType sent) := by
  have hbuild := write_eq_ok_iff.mp h
  obtain ⟨uri, b, p, -, hb, -, hbody⟩ := (build_eq_ok_iff (isNull_of_build hbuild)).mp hbuild
  obtain ⟨fields, hfields, hheaders⟩ := headers_of_bound binds hb
  obtain ⟨sent, hsent, hall⟩ := exists_sent apart hfields
  have hnames : (sent.map fun p => Text.lower p.1).Nodup := by
    have hmap : sent.map (fun p => Text.lower p.1) =
        (presentHeaders w.inputMembers v).map fun p => Text.lower p.1.wireName.text := by
      have hfst := congrArg (List.map Text.lower) (map_fst_of_fields hall)
      rw [List.map_map, List.map_map] at hfst
      exact hfst
    rw [hmap]
    exact nodup_presentHeaders apart v
  have hput : b.headers = textKeys sent := by
    have hself : Entries.putAll [] sent = sent :=
      Entries.ofPairs_eq_self (nodup_keys_of_nodup_lower hnames)
    have hall := Entries.putAll_textKeys [] sent
    rw [hself] at hall
    rw [hheaders, hsent]
    exact hall
  have hrest : w.withRestBody v (w.start uri b p) = .ok q := by
    unfold withBody at hbody
    unfold Protocol.bindsLocations at binds
    split at hbody
    · rename_i hprotocol
      rw [hprotocol] at binds
      cases binds
    · exact hbody
    · exact hbody
    · rename_i hprotocol
      rw [hprotocol] at binds
      cases binds
  have hstart : (w.start uri b p).headers = textKeys sent := hput
  refine ⟨sent, hall, hnames, ?_⟩
  rw [headers_of_withRestBody hrest, hstart, TypeRule.apply_textKeys]

/-- The members in the header keep their fields, whatever body is written behind them, but for a
member with the name of the content type beside a body of members, whose field says what the body is
instead. The names differ in more than case, unless the body treats the content type and a member
gives its name another spelling. -/
theorem headers_of_write (binds : w.protocol.bindsLocations = true)
    (apart : HeadersApart g w.inputMembers) (h : (w.write v).1 = .ok q) :
    ∃ sent : List (String × String), q.headers = textKeys sent ∧
      (∀ m ∈ w.inputMembers, m.location = .header → ∀ x, valueOf v m.name = some x →
        ∃ text, headerFields m x = .ok [(.str m.wireName.text, text)] ∧
          sent.lookup m.wireName.text =
            some (if m.wireName.text = contentTypeField ∧ w.bodyType v = .always then
              w.codec.format.contentType else text)) ∧
      ((sent.map fun p => Text.lower p.1).Nodup ↔ w.bodyType v = .untouched ∨
        ¬∃ m ∈ w.inputMembers, m.location = .header ∧ (valueOf v m.name).isSome ∧
          Text.lower m.wireName.text = Text.lower contentTypeField ∧
          m.wireName.text ≠ contentTypeField) := by
  obtain ⟨own, hall, hnames, hheaders⟩ := exists_headers_of_write binds apart h
  refine ⟨_, hheaders, fun m hm hlocation x hx => ?_, ?_⟩
  · obtain ⟨field, hfield, hname, hfields⟩ :=
      exists_of_forall₂_left hall (mem_presentHeaders_iff.mpr ⟨hm, hlocation, hx⟩)
    have hlookup : own.lookup m.wireName.text = some field.2 := by
      refine Entries.lookup_of_mem (nodup_keys_of_nodup_lower hnames) ?_
      rw [← hname]
      exact hfield
    refine ⟨field.2, ?_, TypeRule.lookup_apply _ _ _ hlookup⟩
    rw [← hname]
    exact hfields
  · rw [TypeRule.nodup_apply_iff _ _ hnames]
    refine or_congr Iff.rfl (not_congr ?_)
    constructor
    · rintro ⟨field, hfield, hother⟩
      obtain ⟨⟨m, x⟩, hp, hname, -⟩ := exists_of_forall₂_left hall.flip hfield
      obtain ⟨hm, hlocation, hx⟩ := mem_presentHeaders_iff.mp hp
      rw [hname] at hother
      exact ⟨m, hm, hlocation, Option.isSome_iff_exists.mpr ⟨x, hx⟩, hother⟩
    · rintro ⟨m, hm, hlocation, hpresent, hother⟩
      obtain ⟨x, hx⟩ := Option.isSome_iff_exists.mp hpresent
      obtain ⟨field, hfield, hname, -⟩ :=
        exists_of_forall₂_left hall (mem_presentHeaders_iff.mpr ⟨hm, hlocation, hx⟩)
      rw [← hname] at hother
      exact ⟨field, hfield, hother⟩

/-- The texts among the shapes of a note. -/
def noteText : Fin 2 := ⟨1, by decide⟩

/-- The shapes of a request for a note: a tag and the kind of the note are in the header, and its
words are in the body. -/
def notes : Graph where
  size := 2
  shapes := #v[
    { name := "Note"
      form := .struct
        [{ name := "Tag", shape := noteText, location := .header, locationName := .str "x-tag" },
          { name := "Kind", shape := noteText, location := .header,
            locationName := .str contentTypeField },
          { name := "Words", shape := noteText }] },
    { name := "Text", form := .scalar .string }]

/-- What writes requests for notes. -/
def noteWriter : RequestWriter notes where
  protocol := .restJson
  operation := .ofShapes notes (.str "Add") (some ⟨0, by decide⟩) none "post" (.str "/notes") none
  codec := .complete .json true .null
  endpoint := .str "notes/"

theorem noteWriter_apart : HeadersApart notes noteWriter.inputMembers where
  single := by decide
  texts := by
    intro m hm _
    rcases hm with _ | ⟨_, _ | ⟨_, _ | ⟨_, hm⟩⟩⟩
    · rfl
    · rfl
    · rfl
    · cases hm
  names := by decide

/-- A note with a kind of its own. -/
def noteRequest : Value :=
  .ofFields [("Tag", .str "new"), ("Kind", .str "text/plain"), ("Words", .str "so")]

/-- The request for the note. -/
def writtenNote : Http.Request where
  method := .str "POST"
  path := "/notes"
  endpoint := .str "notes/"
  headers := textKeys [("x-tag", "new"), (contentTypeField, "application/json")]
  body := .ofBytes "\x7b\"Words\":\"so\"\x7d".toUTF8.toList

theorem write_note : (noteWriter.write noteRequest).1 = .ok writtenNote := by
  cbv

/-- The tag of the note stays, and the names of its two fields differ. -/
theorem headers_of_write_note :
    (noteWriter.write noteRequest).1 = .ok writtenNote ∧
      ∃ sent, writtenNote.headers = textKeys sent ∧ sent.lookup "x-tag" = some "new" ∧
        (sent.map fun p => Text.lower p.1).Nodup := by
  obtain ⟨sent, hsent, hfields, hnames⟩ := headers_of_write rfl noteWriter_apart write_note
  obtain ⟨text, htext, hlookup⟩ :=
    hfields _ (List.mem_cons_self ..) rfl (.str "new") rfl
  refine ⟨write_note, sent, hsent, ?_, hnames.mpr (.inr ?_)⟩
  · cases htext
    exact hlookup
  · decide

/-- The kind of the note is lost: its field says what the body is. -/
theorem write_note_kind :
    noteWriter.protocol.bindsLocations = true ∧ HeadersApart notes noteWriter.inputMembers ∧
      (noteWriter.write noteRequest).1 = .ok writtenNote ∧
      ∃ m ∈ noteWriter.inputMembers, m.location = .header ∧
        valueOf noteRequest m.name = some (.str "text/plain") ∧
        headerFields m (.str "text/plain") = .ok [(.str contentTypeField, "text/plain")] ∧
        (.str contentTypeField, "text/plain") ∉ writtenNote.headers :=
  ⟨rfl, noteWriter_apart, write_note, _, List.mem_cons_of_mem _ (List.mem_cons_self ..), rfl, rfl,
    rfl, by simp [writtenNote, textKeys, contentTypeField]⟩

end RequestWriter

end ServiceWire
