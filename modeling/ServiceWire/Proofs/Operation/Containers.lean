import ServiceWire.Proofs.Codec.JsonRoundTrip
import ServiceWire.Proofs.Codec.Misfit
import ServiceWire.Proofs.Codec.XmlStructure
import ServiceWire.Proofs.Operation.Outcome
import ServiceWire.Proofs.Operation.Request

/-!
# Containers in requests

A request is refused for a wrong container in the body, at any depth, for a container in the URI,
and for what is no mapping in the place of a map, wherever the map is written. A list in the query
or in a header field is different: its value is gone through whatever it is, so that a text stands
for the list of its characters, a byte string for its numbers and a mapping for its keys, and the
request is the same as for that list. Only what cannot be gone through at all is refused there.
-/

namespace ServiceWire

/-! ### Bodies -/

section Bodies

variable {c : Codec} {g : Graph} {r : g.Ref} {all : List (Member g.size)} {v x : Value}
  {members : Option (List (Member g.size))} {m : Member g.size}
  (form : (g.shape r).form = .struct all) (hm : m ∈ members.getD all)
  (hx : v.get? m.name = some x) (notNull : x.isNull = false) (h : Misfit g m.shape x)

include form hm hx notNull h

theorem JsonBody.encode_ne_ok (data : Bytes) : encode c g v r members ≠ .ok data := by
  intro hdata
  obtain ⟨d, hd, -⟩ := exists_of_bind hdata
  rw [toDocument] at hd
  simp only [form] at hd
  exact writeMembers_ne_ok hm hx notNull (write_ne_ok h) d hd

theorem XmlBody.encode_ne_ok (root : Value) (data : Bytes) :
    encode c g v r root members ≠ .ok data := by
  intro hdata
  obtain ⟨e, he, -⟩ := exists_of_bind hdata
  rw [toElement] at he
  simp only [form] at he
  exact writeMembers_ne_ok hm hx notNull h.kind_ne_scalar (unwritten_of_misfit h).2 _ e he

theorem FormBody.toParams_ne_ok (path : Value) (ps : Params) :
    toParams c g v r path members ≠ .ok ps := by
  rw [toParams]
  simp only [form]
  exact writeMembers_ne_ok hm hx notNull (write_ne_ok h) ps

end Bodies

namespace RequestWriter

variable {g : Graph} {w : RequestWriter g} {r : g.Ref} {request x : Value} {m : Member g.size}

theorem valueOf_eq_some_iff {name : String} :
    valueOf request name = some x ↔ request.get? name = some x ∧ x.isNull = false := by
  rw [valueOf, Option.filter_eq_some_iff, Bool.not_eq_true']

/-! ### Where members are written -/

/-- Whether a member is one of those that are written in the body beside each other. -/
def InBody (w : RequestWriter g) (r : g.Ref) (m : Member g.size) : Prop :=
  match w.protocol with
  | .json => (g.shape r).payloadMember? = none
  | .restJson | .restXml => w.operation.explicitPayload = false ∧
      w.operation.payloadMembers = true ∧ m ∈ (g.shape r).bodyMembers
  | .query => True

/-- Whether a member is written as the whole body. -/
def AsBody (w : RequestWriter g) (r : g.Ref) (m : Member g.size) : Prop :=
  (g.shape r).payloadMember? = some m ∧
    match w.protocol with
    | .json => True
    | .restJson | .restXml => w.operation.explicitPayload = true
    | .query => False

/-- A member outside the body with a value that has no place there: a container in the URI, what
cannot be gone through in the place of a list, be it under a key of a map in the query, and what is
no mapping in the place of a map. -/
inductive Unplaced (m : Member g.size) (x : Value) : Prop
  | label (place : m.location = .uri)
      (container : (g.shape m.shape).kind = .list ∨ (g.shape m.shape).kind = .map)
  | list {item : g.Ref} (place : m.location = .query ∨ m.location = .header)
      (form : (g.shape m.shape).form = .list item) (none : x.items? = none)
  | map {key value : g.Ref} (place : m.location = .query ∨ m.location = .header)
      (form : (g.shape m.shape).form = .map key value) (none : x.isMapping = false)
  | entry {key value item : g.Ref} {entries : List (Value × Value)} {p : Value × Value}
      (place : m.location = .query) (form : (g.shape m.shape).form = .map key value)
      (lists : (g.shape value).form = .list item) (mapping : x = .dict entries)
      (mem : p ∈ entries) (none : p.2.items? = none)

/-- A member with a value that a request is refused for. -/
inductive Refused (w : RequestWriter g) (r : g.Ref) (m : Member g.size) (x : Value) : Prop
  | body (place : w.InBody r m) (misfit : Misfit g m.shape x)
  | payload (place : w.AsBody r m) (plain : (g.shape m.shape).streaming = false)
      (misfit : Misfit g m.shape x)
  | outside (binds : w.protocol.bindsLocations = true) (unplaced : Unplaced m x)

/-! ### Requests that are not written -/

theorem withPayload_ne_ok (hx : valueOf request m.name = some x)
    (plain : (g.shape m.shape).streaming = false) (h : Misfit g m.shape x)
    (before after : Http.Request) : w.withPayload request m before ≠ .ok after := by
  have hkind := h.kind_ne_scalar
  have hraw : ¬((g.shape m.shape).kind = .scalar .blob ∨ (g.shape m.shape).streaming = true) := by
    rintro (hblob | hstream)
    · exact hkind _ hblob
    · rw [plain] at hstream
      cases hstream
  intro hafter
  rw [withPayload, hx] at hafter
  simp only [if_neg hraw] at hafter
  cases h with
  | list form | item form | map form | entry form =>
    simp only [Shape.kind, form, Form.kind] at hafter
    cases hafter
  | member form mem some notNull part =>
    simp only [Shape.kind, form, Form.kind] at hafter
    obtain ⟨data, hdata, -⟩ := exists_of_bind hafter
    rw [structurePayload] at hdata
    split at hdata
    · exact XmlBody.encode_ne_ok form mem some notNull part _ data hdata
    · exact JsonBody.encode_ne_ok form mem some notNull part data hdata

theorem exists_form_of_mem_members (hm : m ∈ g.members r) :
    ∃ all, (g.shape r).form = .struct all ∧ m ∈ all := by
  rw [Graph.members, Shape.members] at hm
  split at hm
  · next all form => exact ⟨all, form, hm⟩
  · cases hm

theorem withBody_ne_ok_of_inBody (input : w.operation.input = some r) (hm : m ∈ g.members r)
    (hx : valueOf request m.name = some x) (place : w.InBody r m) (h : Misfit g m.shape x)
    (before after : Http.Request) : w.withBody request before ≠ .ok after := by
  obtain ⟨hget, notNull⟩ := valueOf_eq_some_iff.mp hx
  obtain ⟨all, form, hall⟩ := exists_form_of_mem_members hm
  have hmem : m ∈ (none : Option (List (Member g.size))).getD all := hall
  -- The two REST protocols differ in the form of the body only.
  have hrest (place : w.operation.explicitPayload = false ∧ w.operation.payloadMembers = true ∧
      m ∈ (g.shape r).bodyMembers) : w.withRestBody request before ≠ .ok after := by
    obtain ⟨hexplicit, hpayload, hbody⟩ := place
    intro hafter
    rw [withRestBody, input] at hafter
    simp only [hexplicit, hpayload, Bool.false_eq_true, if_false, if_true] at hafter
    obtain ⟨data, hdata, -⟩ := exists_of_bind hafter
    rw [encodeMembers] at hdata
    split at hdata
    · exact XmlBody.encode_ne_ok form hbody hget notNull h _ data hdata
    · exact JsonBody.encode_ne_ok form hbody hget notNull h data hdata
  rw [withBody]
  cases hprotocol : w.protocol with
  | json =>
    simp only [InBody, hprotocol] at place
    intro hafter
    simp only [withJsonBody, input, place] at hafter
    obtain ⟨data, hdata, -⟩ := exists_of_map hafter
    exact JsonBody.encode_ne_ok form hmem hget notNull h data hdata
  | restJson | restXml =>
    simp only [InBody, hprotocol] at place
    exact hrest place
  | query =>
    intro hafter
    simp only [withFormBody, input] at hafter
    obtain ⟨ps, hps, -⟩ := exists_of_bind hafter
    exact FormBody.toParams_ne_ok form hmem hget notNull h _ ps hps

theorem withBody_ne_ok_of_asBody (input : w.operation.input = some r)
    (hx : valueOf request m.name = some x) (place : w.AsBody r m)
    (plain : (g.shape m.shape).streaming = false) (h : Misfit g m.shape x)
    (before after : Http.Request) : w.withBody request before ≠ .ok after := by
  obtain ⟨hpayload, place⟩ := place
  have hrest (hexplicit : w.operation.explicitPayload = true) :
      w.withRestBody request before ≠ .ok after := by
    rw [withRestBody, input]
    simp only [hexplicit, if_true, hpayload]
    exact withPayload_ne_ok hx plain h before after
  rw [withBody]
  cases hprotocol : w.protocol with
  | json =>
    simp only [withJsonBody, input, hpayload]
    exact withPayload_ne_ok hx plain h _ after
  | restJson | restXml =>
    simp only [hprotocol] at place
    exact hrest place
  | query =>
    simp only [hprotocol] at place

/-- What is written outside the body is written by the steps that come by the members. -/
theorem exists_bind_of_bound (binds : w.protocol.bindsLocations = true)
    (input : w.operation.input = some r) {b : Bound} (hb : w.bound request = .ok b)
    (hm : m ∈ g.members r) : ∃ before after, bind request before m = .ok after := by
  rw [bound, input] at hb
  simp only [binds, if_true] at hb
  exact exists_of_foldlM hb hm

theorem entriesOf_of_not_mapping (h : x.isMapping = false) :
    entriesOf x = .error (.plain .attribute) := by
  cases x <;> first | rfl | cases h

theorem itemsOf_of_none (h : x.items? = none) : itemsOf x = .error (.plain .type) := by
  rw [itemsOf, h]

theorem itemsOf_of_some {items : List Value} (h : x.items? = some items) :
    itemsOf x = .ok items := by
  rw [itemsOf, h]

theorem bind_ne_ok (hx : valueOf request m.name = some x) (h : Unplaced m x)
    (before after : Bound) : bind request before m ≠ .ok after := by
  intro hafter
  rw [bind, hx] at hafter
  cases h with
  | label place container =>
    simp only [place] at hafter
    obtain ⟨s, hs, -⟩ := exists_of_bind hafter
    refine Scalar.toText_ne_ok (fun k hk => ?_) x s hs
    rcases container with hlist | hmap
    · rw [hlist] at hk
      cases hk
    · rw [hmap] at hk
      cases hk
  | list place form none =>
    rcases place with place | place
    · simp only [place, queryParams, form, itemsOf_of_none none] at hafter
      cases hafter
    · simp only [place, headerFields, form, itemsOf_of_none none] at hafter
      cases hafter
  | map place form none =>
    rcases place with place | place
    · simp only [place, queryParams, form, entriesOf_of_not_mapping none] at hafter
      cases hafter
    · simp only [place, headerFields, form, entriesOf_of_not_mapping none] at hafter
      cases hafter
  | entry place form lists mapping mem none =>
    subst mapping
    simp only [place, queryParams, form] at hafter
    obtain ⟨params, hparams, -⟩ := exists_of_bind hafter
    simp only [entriesOf, ok_bind] at hparams
    obtain ⟨parts, hparts, -⟩ := exists_of_bind hparams
    obtain ⟨part, hpart⟩ := exists_of_mapM hparts mem
    simp only [entryParams, lists, itemsOf_of_none none] at hpart
    cases hpart

theorem isNull_of_valueOf {name : String} (hx : valueOf request name = some x) :
    request.isNull = false := by
  cases request with
  | null => cases hx
  | _ => rfl

/-- A request with a value that it is refused for is not built. -/
theorem build_ne_ok (input : w.operation.input = some r) (hm : m ∈ g.members r)
    (hx : valueOf request m.name = some x) (h : w.Refused r m x) (q : Http.Request) :
    w.build request ≠ .ok q := by
  intro hq
  obtain ⟨uri, b, p, -, hb, -, hbody⟩ := (build_eq_ok_iff (isNull_of_valueOf hx)).mp hq
  cases h with
  | body place misfit => exact withBody_ne_ok_of_inBody input hm hx place misfit _ q hbody
  | payload place plain misfit =>
    exact withBody_ne_ok_of_asBody input hx place plain misfit _ q hbody
  | outside binds unplaced =>
    obtain ⟨before, after, hbind⟩ := exists_bind_of_bound binds input hb hm
    exact bind_ne_ok hx unplaced before after hbind

/-! ### Lists in the query and in header fields -/

/-- Two values of a member outside the body, of which the second has lists where the first has what
yields their items when it is gone through: itself, or under the keys of a map in the query. -/
inductive GoneThrough (m : Member g.size) : Value → Value → Prop
  | list {item : g.Ref} {x : Value} {items : List Value}
      (place : m.location = .query ∨ m.location = .header)
      (form : (g.shape m.shape).form = .list item) (yields : x.items? = some items) :
      GoneThrough m x (.list items)
  | map {key value item : g.Ref} {entries entries' : List (Value × Value)}
      (place : m.location = .query) (form : (g.shape m.shape).form = .map key value)
      (lists : (g.shape value).form = .list item)
      (yield : List.Forall₂ (fun p p' => p.1 = p'.1 ∧
        ∃ items, p.2.items? = some items ∧ p'.2 = .list items) entries entries') :
      GoneThrough m (.dict entries) (.dict entries')

theorem itemsOf_list (items : List Value) : itemsOf (.list items) = .ok items := rfl

theorem mapM_entryParams {value item : g.Ref} {entries entries' : List (Value × Value)}
    (lists : (g.shape value).form = .list item)
    (yield : List.Forall₂ (fun p p' => p.1 = p'.1 ∧
      ∃ items, p.2.items? = some items ∧ p'.2 = .list items) entries entries') :
    entries.mapM (entryParams g value) = entries'.mapM (entryParams g value) := by
  induction yield with
  | nil => rfl
  | cons hp _ ih =>
    obtain ⟨hkey, items, hitems, hlist⟩ := hp
    rw [List.mapM_cons, List.mapM_cons, ih]
    simp only [entryParams, lists, hkey, itemsOf_of_some hitems, hlist, itemsOf_list]

theorem bind_goneThrough {request' x' : Value} (hx : valueOf request m.name = some x)
    (hx' : valueOf request' m.name = some x') (h : GoneThrough m x x') (b : Bound) :
    bind request b m = bind request' b m := by
  rw [bind, bind, hx, hx']
  cases h with
  | list place form yields =>
    rcases place with place | place
    · simp only [place, queryParams, form, itemsOf_of_some yields, itemsOf_list]
    · simp only [place, headerFields, form, itemsOf_of_some yields, itemsOf_list]
  | map place form lists yield =>
    simp only [place, queryParams, form, entriesOf, ok_bind, mapM_entryParams lists yield]

/-- Two requests that have the same values but for one member outside the body, where the second has
lists for what the first has. -/
structure Spread (r : g.Ref) (m : Member g.size) (request request' : Value) : Prop where
  mem : m ∈ g.members r
  plain : m.payload = false
  value : ∃ x x', valueOf request m.name = some x ∧ valueOf request' m.name = some x' ∧
    GoneThrough m x x'
  others : ∀ m' ∈ g.members r, m' ≠ m → valueOf request m'.name = valueOf request' m'.name

namespace Spread

variable {request' : Value} (h : Spread r m request request')

include h

theorem bind_eq {m' : Member g.size} (hm : m' ∈ g.members r) (b : Bound) :
    bind request b m' = bind request' b m' := by
  by_cases heq : m' = m
  · subst heq
    obtain ⟨x, x', hx, hx', hyield⟩ := h.value
    exact bind_goneThrough hx hx' hyield b
  · rw [bind, bind, h.others m' hm heq]

theorem bound_eq (input : w.operation.input = some r) : w.bound request = w.bound request' := by
  rw [bound, bound, input]
  simp only
  split
  · exact foldlM_congr (fun m' hm b => h.bind_eq hm b) {}
  · rfl

theorem member?_view_eq {ρ : Type} (f : Value → ρ) {m' : Member g.size} (hm : m' ∈ g.members r)
    (hne : m' ≠ m) : (request.view f).member? m'.name = (request'.view f).member? m'.name := by
  have hvalue := h.others m' hm hne
  rw [valueOf, valueOf] at hvalue
  rw [Value.member?_view, Value.member?_view, hvalue]

theorem ne_of_bodyMembers {m' : Member g.size} (hm : m' ∈ (g.shape r).bodyMembers) :
    m' ∈ g.members r ∧ m' ≠ m := by
  obtain ⟨hmem, hbody⟩ := List.mem_filter.mp hm
  refine ⟨hmem, ?_⟩
  rintro rfl
  obtain ⟨x, x', -, -, hyield⟩ := h.value
  cases hyield with
  | list place =>
    rcases place with place | place
    · simp [place] at hbody
    · simp [place] at hbody
  | map place => simp [place] at hbody

theorem encodeMembers_eq : w.encodeMembers request r = w.encodeMembers request' r := by
  obtain ⟨all, form, -⟩ := exists_form_of_mem_members h.mem
  have hview {ρ : Type} (f : Value → ρ) : ∀ m' ∈ (g.shape r).bodyMembers,
      (request.view f).member? m'.name = (request'.view f).member? m'.name := fun m' hm' =>
    h.member?_view_eq f (h.ne_of_bodyMembers hm').1 (h.ne_of_bodyMembers hm').2
  rw [encodeMembers, encodeMembers]
  split
  · simp only [XmlBody.encode, XmlBody.toElement, form, Option.getD_some,
      XmlBody.writeMembers_congr (hview (XmlBody.write w.codec g))]
  · simp only [JsonBody.encode, JsonBody.toDocument, form, Option.getD_some,
      JsonBody.writeMembers_congr (hview (JsonBody.write w.codec g))]

theorem withRestBody_eq (input : w.operation.input = some r) (q : Http.Request) :
    w.withRestBody request q = w.withRestBody request' q := by
  rw [withRestBody, withRestBody, input]
  simp only
  split
  · split
    · next m' hpayload =>
      have hne : m' ≠ m := by
        rintro rfl
        have hfound := List.find?_some hpayload
        rw [h.plain] at hfound
        cases hfound
      have hmem : m' ∈ g.members r := List.mem_of_find?_eq_some hpayload
      rw [withPayload, withPayload, h.others m' hmem hne]
    · rfl
  · rw [h.encodeMembers_eq]

/-- Both requests are written alike. -/
theorem write_eq (binds : w.protocol.bindsLocations = true) (input : w.operation.input = some r) :
    w.write request = w.write request' := by
  have hbody (q : Http.Request) : w.withBody request q = w.withBody request' q := by
    rw [withBody, withBody]
    cases hprotocol : w.protocol with
    | json | query =>
      rw [hprotocol] at binds
      cases binds
    | restJson | restXml => exact h.withRestBody_eq input q
  obtain ⟨x, x', hx, hx', -⟩ := h.value
  rw [write, write, build, build, isNull_of_valueOf hx, isNull_of_valueOf hx', h.bound_eq input]
  simp only [hbody]

end Spread

/-- A request with a wrong container is refused and reported under the name of its operation: for a
value in the body that does not fit at any depth, for a container in the URI, and for what is no
mapping or yields nothing outside the body. But in the place of a list outside the body stands
whatever yields items, and the request is the same as for the list of the items. -/
theorem write_containers (check : w.check = .ok ()) (input : w.operation.input = some r) :
    (∀ m ∈ g.members r, ∀ request x, valueOf request m.name = some x → w.Refused r m x →
      ∃ f, (w.write request).1 =
        .error (.marshalling w.protocol.label w.operation.name f)) ∧
    (w.protocol.bindsLocations = true → ∀ m request request', Spread r m request request' →
      w.write request = w.write request') := by
  refine ⟨fun m hm request x hx h => ?_, fun binds m request request' h => h.write_eq binds input⟩
  rcases settles_of_check check request with ⟨q, hq, -⟩ | ⟨f, hf, -⟩
  · exact absurd (write_eq_ok_iff.mp hq) (build_ne_ok input hm hx h q)
  · exact ⟨f, hf⟩

end RequestWriter

/-! ### A search -/

/-- The numerals that name three shapes. -/
local instance threeShapes : NeZero 3 := ⟨by decide⟩

/-- The words of a search, in its query. -/
def searchWords : Member 3 := { name := "Words", shape := 1, location := .query }

/-- The marks of a search, in its body. -/
def searchMarks : Member 3 := { name := "Marks", shape := 1 }

/-- The shapes of a search. -/
def searches : Graph where
  size := 3
  shapes := #v[
    { name := "Search", form := .struct [searchWords, searchMarks] },
    { name := "Texts", form := .list 2 },
    { name := "Text", form := .scalar .string }]

/-- A writer of searches. -/
def searchWriter : RequestWriter searches where
  protocol := .restJson
  operation := .ofShapes searches (.str "Search") (some ⟨0, by decide⟩) none "post" (.str "/") none
  codec := .complete .json false .null

/-- A search with a value for one of its members. -/
def searchFor (name : String) (x : Value) : Value := .dict [(.str name, x)]

namespace RequestWriter

theorem check_searchWriter : searchWriter.check = .ok () := by
  cbv

/-- A text in the place of the marks is refused, and in the place of the words it is written as the
list of its characters is. -/
theorem write_containers_search :
    (∃ f, (searchWriter.write (searchFor "Marks" (.str "ab"))).1 =
      .error (.marshalling "rest-json" (.str "Search") f)) ∧
    searchWriter.write (searchFor "Words" (.str "ab")) =
      searchWriter.write (searchFor "Words" (.list [.str "a", .str "b"])) := by
  have hinput : searchWriter.operation.input = some ⟨0, by decide⟩ := rfl
  obtain ⟨hrefused, hspread⟩ := write_containers check_searchWriter hinput
  have hmembers : searches.members ⟨0, by decide⟩ = [searchWords, searchMarks] := rfl
  have hlist : (searches.shape (1 : Fin 3)).form = .list (2 : Fin 3) := rfl
  constructor
  · refine hrefused searchMarks ?_ _ (.str "ab") rfl (.body ⟨rfl, rfl, ?_⟩ (.list hlist rfl))
    · rw [hmembers]
      exact List.mem_cons_of_mem _ (List.mem_singleton_self _)
    · exact List.mem_singleton_self _
  · refine hspread rfl searchWords _ _
      ⟨List.mem_cons_self .., rfl, ⟨_, _, rfl, rfl, .list (.inl rfl) hlist rfl⟩, fun m hm hne => ?_⟩
    rw [hmembers] at hm
    rcases List.mem_cons.mp hm with rfl | hm
    · exact absurd rfl hne
    · rw [List.mem_singleton.mp hm]
      rfl

/-- A text in the place of the words of a search is sent character by character. -/
theorem write_spread_text :
    ∃ q, (searchWriter.write (searchFor "Words" (.str "ab"))).1 = .ok q ∧
      q.query = [(.str "Words", .str "a"), (.str "Words", .str "b")] :=
  ⟨_, rfl, rfl⟩

end RequestWriter

end ServiceWire
