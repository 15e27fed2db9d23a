import ServiceWire.Operation.RequestWriter
import ServiceWire.Proofs.Codec.FormInjective
import ServiceWire.Proofs.Http.Url

/-!
# Bodies of Query requests

The body of a Query request is a form with the operation, the version and the parameters of the
input. Nothing is lost in it: no two parameters have the same name, the body is read back as the
parameters in their order, and inputs with the same parameters are the same.
-/

namespace ServiceWire.RequestWriter

variable {g : Graph} {w : RequestWriter g}

/-- The parameters of a whole Query request. -/
def queryPairs (w : RequestWriter g) (params : FormBody.Params) : List (Value × Value) :=
  w.queryHead ++ params.map fun p => (p.1, .str p.2)

/-- A body is bytes that are read as parameters, as a mapping that keeps their order. -/
def Holds (body : Value) (pairs : List (Value × Value)) : Prop :=
  ∃ data text, body = .ofBytes data ∧ JsonBody.textOf data = .ok text ∧
    UrlForm.ofTexts (Entries.ofPairs (UrlForm.decode text)) = pairs

/-- Texts with different names are read back from the body that they are written as. -/
theorem holds_encode {pairs : List (String × String)} (h : (pairs.map Prod.fst).Nodup) :
    Holds (.ofBytes (bytesOf (UrlForm.encode (UrlForm.ofTexts pairs)))) (UrlForm.ofTexts pairs) := by
  refine ⟨_, UrlForm.encode (UrlForm.ofTexts pairs), rfl, ?_, ?_⟩
  · rw [JsonBody.textOf, Utf8.decode?_encode]
  · rw [UrlForm.decode_encode, Entries.ofPairs_eq_self h]

/-- Parameters with different names that are all texts are pairs of texts. -/
theorem exists_texts_of_spread {path : String} {steps : String → Prop} {params : FormBody.Params}
    (h : FormBody.Spread path steps params) :
    ∃ pairs, (params.map fun p => (p.1, Value.str p.2)) = UrlForm.ofTexts pairs ∧
      (pairs.map Prod.fst).Nodup := by
  have hkey : ∀ p ∈ params, p.1 = .str p.1.text := by
    intro p hp
    obtain ⟨-, -, name, hname, -⟩ := h.below p hp
    rw [hname]
    rfl
  refine ⟨params.map fun p => (p.1.text, p.2), ?_, ?_⟩
  · rw [UrlForm.ofTexts, List.map_map]
    exact List.map_congr_left fun p hp => Prod.ext (hkey p hp) rfl
  · have hnames : params.map Prod.fst = (params.map fun p => p.1.text).map Value.str := by
      rw [List.map_map]
      exact List.map_congr_left hkey
    have hnodup := h.nodup
    rw [hnames] at hnodup
    rw [List.map_map]
    exact hnodup.of_map

section Query

variable {input : g.Ref} {members : List (Member g.size)} {name version : String}
  (hinput : w.operation.input = some input) (form : (g.shape input).form = .struct members)
  (plain : ∀ q, g.Leads input q → FormBody.Plain (g.shape q))
  (top : ∀ m ∈ members, m.wireName.text ∉ ["Action", "Version"])
  (hname : w.operation.name = .str name) (hversion : w.apiVersion = .str version)

include form plain top hname hversion in
/-- The parameters of a whole request are texts with different names. -/
theorem exists_texts {request : Value} {params : FormBody.Params}
    (h : FormBody.toParams w.codec g request input (.str "") none = .ok params) :
    ∃ pairs, w.queryPairs params = UrlForm.ofTexts pairs ∧ (pairs.map Prod.fst).Nodup := by
  have hsteps : ∀ s ∈ members.map fun m => m.wireName.text, FormBody.IsStep s := by
    intro s hs
    obtain ⟨m, hm, rfl⟩ := List.mem_map.mp hs
    refine ((plain input (.refl input)).members m ?_).2
    rwa [Shape.members, form]
  have hnew : ∀ s ∈ ["Action", "Version"], s ∉ members.map fun m => m.wireName.text := by
    intro s hs hmem
    obtain ⟨m, hm, rfl⟩ := List.mem_map.mp hmem
    exact top m hm hs
  have hversioned := (FormBody.spread_toParams form plain h).append hsteps
    (show FormBody.IsStep "Version" by decide) (hnew _ (by decide)) (.single "Version" version)
  have hwhole := hversioned.append (fun s hs => hs.elim (by rintro rfl; decide) (hsteps s))
    (show FormBody.IsStep "Action" by decide) (fun hs => hs.elim (by decide) (hnew _ (by decide))) (.single "Action" name)
  obtain ⟨pairs, hpairs, hnodup⟩ := exists_texts_of_spread hwhole
  refine ⟨pairs, ?_, hnodup⟩
  rw [← hpairs, queryPairs, queryHead, hname, hversion]
  rfl

include hinput in
/-- The body of a Query request has its parameters, if these can be written. -/
theorem withFormBody_of_toParams {request : Value} {params : FormBody.Params}
    (h : FormBody.toParams w.codec g request input (.str "") none = .ok params)
    (r : Http.Request) :
    ∃ r', w.withFormBody request r = .ok r' ∧
      r'.body = .ofBytes (bytesOf (UrlForm.encode (w.queryPairs params))) := by
  rw [withFormBody, hinput]
  simp only [h]
  exact ⟨_, rfl, rfl⟩

include hinput in
/-- A Query request that is written has the parameters of its input in its body. -/
theorem toParams_of_write (hprotocol : w.protocol = .query) {request : Value} {r' : Http.Request}
    (h : (w.write request).1 = .ok r') :
    ∃ params, FormBody.toParams w.codec g request input (.str "") none = .ok params ∧
      r'.body = .ofBytes (bytesOf (UrlForm.encode (w.queryPairs params))) := by
  have hbuild : w.build request = .ok r' := by
    rw [write] at h
    split at h
    · rename_i built hbuilt
      rw [hbuilt, Except.ok.inj h]
    · cases h
  rw [build] at hbuild
  split at hbuild
  · cases hbuild
  obtain ⟨uri, -, hbuild⟩ := exists_of_bind hbuild
  obtain ⟨b, -, hbuild⟩ := exists_of_bind hbuild
  obtain ⟨p, -, hbuild⟩ := exists_of_bind hbuild
  simp only [withBody, hprotocol, withFormBody, hinput] at hbuild
  obtain ⟨params, hparams, hbuild⟩ := exists_of_bind hbuild
  obtain rfl := Except.ok.inj hbuild
  exact ⟨params, hparams, rfl⟩

include hinput form plain top hname hversion in
/-- The body of a Query request loses nothing. Its parameters have different names, it is read back
as its parameters in their order, whatever texts these hold, and inputs of the shape without empty
mappings in them that have the same parameters are the same. -/
theorem query_body_lossless :
    (∀ request params, FormBody.toParams w.codec g request input (.str "") none = .ok params →
      ((w.queryPairs params).map Prod.fst).Nodup ∧
        ∀ r, ∃ r', w.withFormBody request r = .ok r' ∧ Holds r'.body (w.queryPairs params)) ∧
    (w.protocol = .query → ∀ request r', (w.write request).1 = .ok r' →
      ∃ params, FormBody.toParams w.codec g request input (.str "") none = .ok params ∧
        Holds r'.body (w.queryPairs params)) ∧
    ∀ v v' params, WellTyped g (FormBody.demands g) input v →
      WellTyped g (FormBody.demands g) input v' →
      (v = .ofFields [] ∨ v.filled = true) → (v' = .ofFields [] ∨ v'.filled = true) →
      FormBody.toParams w.codec g v input (.str "") none = .ok params →
      FormBody.toParams w.codec g v' input (.str "") none = .ok params → v.Alike v' := by
  have hholds {request : Value} {params : FormBody.Params}
      (h : FormBody.toParams w.codec g request input (.str "") none = .ok params) {body : Value}
      (hbody : body = .ofBytes (bytesOf (UrlForm.encode (w.queryPairs params)))) :
      Holds body (w.queryPairs params) := by
    obtain ⟨pairs, hpairs, hnodup⟩ := exists_texts form plain top hname hversion h
    rw [hbody, hpairs]
    exact holds_encode hnodup
  refine ⟨fun request params h => ⟨?_, fun r => ?_⟩, fun hprotocol request r' h => ?_,
    fun v v' params h h' hv hv' hw hw' => ?_⟩
  · obtain ⟨pairs, hpairs, hnodup⟩ := exists_texts form plain top hname hversion h
    have hnames : (UrlForm.ofTexts pairs).map Prod.fst = (pairs.map Prod.fst).map Value.str := by
      rw [UrlForm.ofTexts, List.map_map, List.map_map]
      rfl
    rw [hpairs, hnames]
    exact hnodup.map fun s t heq => Value.str.inj heq
  · obtain ⟨r', hr', hbody⟩ := withFormBody_of_toParams hinput h r
    exact ⟨r', hr', hholds h hbody⟩
  · obtain ⟨params, hparams, hbody⟩ := toParams_of_write hinput hprotocol h
    exact ⟨params, hparams, hholds hparams hbody⟩
  · exact FormBody.alike_of_toParams form plain h h' hv hv' hw hw'

end Query

/-- A folder: a label, notes under names, and folders in it. -/
def folder : Shape 4 where
  name := "Folder"
  form := .struct
    [{ name := "label", shape := 1 }, { name := "notes", shape := 2 },
      { name := "folders", shape := 3, locationName := .str "Folder" }]

/-- The shapes of folders; the first contains itself through the last. -/
def folders : Graph where
  size := 4
  shapes := #v[folder, { name := "Text", form := .scalar .string },
    { name := "Notes", form := .map 1 1, keyName := .str "name" },
    { name := "Folders", form := .list 0, flattened := true }]

/-- What writes the requests to create a folder. -/
def createFolder : RequestWriter folders where
  protocol := .query
  operation := { name := .str "CreateFolder", input := some ⟨0, by decide⟩ }
  codec := .complete .query false .null
  apiVersion := .str "2013-05-01"

theorem form_folder : (folders.shape ⟨0, by decide⟩).form = .struct folder.members := rfl

theorem plain_folder : FormBody.Plain folder where
  members := List.forall_mem_cons.mpr ⟨⟨rfl, by decide⟩, List.forall_mem_cons.mpr
    ⟨⟨rfl, by decide⟩, List.forall_mem_singleton.mpr ⟨rfl, by decide⟩⟩⟩
  wireNames := by decide
  item := nofun
  key := nofun
  value := nofun
  apart := nofun

theorem plain_folders (q : folders.Ref) : FormBody.Plain (folders.shape q) := by
  have hsteps : ∀ q : folders.Ref, FormBody.IsStep (folders.shape q).itemTag.text ∧
      FormBody.IsStep (folders.shape q).keyTag.text ∧
      FormBody.IsStep (folders.shape q).valueTag.text ∧
      (folders.shape q).keyTag.text ≠ (folders.shape q).valueTag.text := by
    decide
  obtain ⟨hitem, hkey, hvalue, hapart⟩ := hsteps q
  have hplain (members : (folders.shape q).members = [])
      (item : (folders.shape q).itemTag = .str (folders.shape q).itemTag.text)
      (key : (folders.shape q).keyTag = .str (folders.shape q).keyTag.text)
      (value : (folders.shape q).valueTag = .str (folders.shape q).valueTag.text) :
      FormBody.Plain (folders.shape q) :=
    ⟨by simp [members], by simp [members], fun _ _ => ⟨item, hitem⟩, fun _ _ _ => ⟨key, hkey⟩,
      fun _ _ _ => ⟨value, hvalue⟩, fun _ _ _ => hapart⟩
  rcases q with ⟨_ | _ | _ | _ | i, hi⟩
  · exact plain_folder
  · exact hplain rfl rfl rfl rfl
  · exact hplain rfl rfl rfl rfl
  · exact hplain rfl rfl rfl rfl
  · exact absurd hi (Nat.not_lt.mpr (Nat.le_add_left 4 i))

/-- A folder with a folder in it. -/
def drawer : Value :=
  .ofFields [("label", .str "a & b"), ("notes", .ofFields [("x.y", .str "1")]),
    ("folders", .list [.ofFields [("label", .str "c")]])]

/-- The same with its entries in another order. -/
def drawer' : Value :=
  .ofFields [("folders", .list [.ofFields [("label", .str "c")]]), ("label", .str "a & b"),
    ("notes", .ofFields [("x.y", .str "1")])]

/-- The parameters of a folder with a folder in it. -/
def drawerParams : FormBody.Params :=
  [(.str "label", "a & b"), (.str "notes.entry.1.name", "x.y"), (.str "notes.entry.1.value", "1"),
    (.str "Folder.1.label", "c")]

theorem toParams_drawer :
    FormBody.toParams createFolder.codec folders drawer ⟨0, by decide⟩ (.str "") none =
      .ok drawerParams := by
  cbv

theorem toParams_drawer' :
    FormBody.toParams createFolder.codec folders drawer' ⟨0, by decide⟩ (.str "") none =
      .ok drawerParams := by
  cbv

theorem filled_drawer : drawer.filled = true ∧ drawer'.filled = true := by
  decide

theorem wellTyped_text (s : String) :
    WellTyped folders (FormBody.demands folders) ⟨1, by decide⟩ (.str s) :=
  .scalar rfl (.string s) (by simp [FormBody.demands, Scalar.Exact])

theorem wellTyped_notes :
    WellTyped folders (FormBody.demands folders) ⟨2, by decide⟩
      (.ofFields [("x.y", .str "1")]) :=
  .map rfl (by decide) (List.forall_mem_singleton.mpr (wellTyped_text "1"))

theorem wellTyped_subfolders :
    WellTyped folders (FormBody.demands folders) ⟨3, by decide⟩
      (.list [.ofFields [("label", .str "c")]]) := by
  have hinner : WellTyped folders (FormBody.demands folders) ⟨0, by decide⟩
      (.ofFields [("label", .str "c")]) :=
    .of_present form_folder (by decide) (by decide)
      (List.forall_mem_singleton.mpr ⟨wellTyped_text "c", trivial⟩)
  exact .list rfl (List.forall_mem_singleton.mpr hinner)

theorem wellTyped_drawer : WellTyped folders (FormBody.demands folders) ⟨0, by decide⟩ drawer := by
  refine .of_present form_folder (by decide) (by decide) ?_
  exact List.forall_mem_cons.mpr ⟨⟨wellTyped_text "a & b", trivial⟩, List.forall_mem_cons.mpr
    ⟨⟨wellTyped_notes, trivial⟩, List.forall_mem_singleton.mpr ⟨wellTyped_subfolders, trivial⟩⟩⟩

theorem wellTyped_drawer' :
    WellTyped folders (FormBody.demands folders) ⟨0, by decide⟩ drawer' := by
  refine .of_present form_folder (by decide) (by decide) ?_
  exact List.forall_mem_cons.mpr ⟨⟨wellTyped_text "a & b", trivial⟩, List.forall_mem_cons.mpr
    ⟨⟨wellTyped_notes, trivial⟩, List.forall_mem_singleton.mpr ⟨wellTyped_subfolders, trivial⟩⟩⟩

/-- A folder with a folder in it is told from its parameters. -/
theorem query_body_lossless_drawer :
    ((createFolder.queryPairs drawerParams).map Prod.fst).Nodup ∧
      (∀ r, ∃ r', createFolder.withFormBody drawer r = .ok r' ∧
        Holds r'.body (createFolder.queryPairs drawerParams)) ∧ drawer.Alike drawer' := by
  have top : ∀ m ∈ folder.members, m.wireName.text ∉ ["Action", "Version"] := by
    simp [folder, Shape.members, Member.wireName, Value.orElse, Value.truthy, Value.text]
  obtain ⟨hpairs, -, halike⟩ := query_body_lossless (w := createFolder) rfl form_folder
    (fun q _ => plain_folders q) top rfl rfl
  obtain ⟨hnodup, hbody⟩ := hpairs drawer drawerParams toParams_drawer
  exact ⟨hnodup, hbody, halike drawer drawer' drawerParams wellTyped_drawer wellTyped_drawer'
    (.inr filled_drawer.1) (.inr filled_drawer.2) toParams_drawer toParams_drawer'⟩

end ServiceWire.RequestWriter
