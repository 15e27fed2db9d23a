import ServiceWire.Proofs.Http.Url
import ServiceWire.Proofs.Operation.Request

/-!
# The URL of a request

What a request is written for cannot change the structure of its URL. The values of the labels and
of the query are percent-encoded, so the first question mark of the URL stands between the path and
the query, no fragment begins anywhere, and the parameters are read back as they were.
-/

namespace ServiceWire

/-! ### The body leaves the URL alone -/

namespace Http.Request

/-- What the URL of a request is put together from. -/
def target (r : Request) : Value × String × List (Value × Value) := (r.endpoint, r.path, r.query)

end Http.Request

namespace RequestWriter

variable {g : Graph} {w : RequestWriter g} {v : Value} {q r : Http.Request}

theorem target_of_withPayload {m : Member g.size} (h : w.withPayload v m r = .ok q) :
    q.target = r.target := by
  rw [withPayload] at h
  split at h
  · cases h
    rfl
  · split at h
    · split at h
      · cases h
        rfl
      · cases h
        rfl
      · split at h <;> cases h
        rfl
      · split at h <;> cases h
        rfl
    · split at h
      · split at h <;> cases h
        rfl
      · obtain ⟨data, -, h⟩ := exists_of_bind h
        cases h
        rfl
      · cases h

theorem target_of_withJsonBody (h : w.withJsonBody v r = .ok q) : q.target = r.target := by
  have hprefix : (if w.targetPrefix.truthy = true then
      r.withHeader "X-Amz-Target" s!"{w.targetPrefix.text}.{w.operation.name.text}"
      else r).target = r.target := by
    split <;> rfl
  rw [withJsonBody] at h
  split at h
  · cases h
    exact hprefix
  · split at h
    · rw [target_of_withPayload h]
      exact hprefix
    · obtain ⟨data, -, heq⟩ := exists_of_map h
      subst heq
      exact hprefix

theorem target_of_withRestBody (h : w.withRestBody v r = .ok q) : q.target = r.target := by
  rw [withRestBody] at h
  split at h
  · cases h
    rfl
  · split at h
    · split at h
      · exact target_of_withPayload h
      · cases h
    · split at h
      · obtain ⟨data, -, h⟩ := exists_of_bind h
        cases h
        rfl
      · cases h
        rfl

theorem target_of_withFormBody (h : w.withFormBody v r = .ok q) : q.target = r.target := by
  rw [withFormBody] at h
  split at h
  all_goals
    obtain ⟨params, -, h⟩ := exists_of_bind h
    cases h
    rfl

/-- Whatever the body of a request is, its URL is not changed by it. -/
theorem target_of_withBody (h : w.withBody v r = .ok q) : q.target = r.target := by
  rw [withBody.eq_def] at h
  split at h
  · exact target_of_withJsonBody h
  · exact target_of_withRestBody h
  · exact target_of_withRestBody h
  · exact target_of_withFormBody h

/-! ### Members in the query -/

/-- The members that a request has in its query, with their values, in declaration order. -/
def queryMembers (members : List (Member g.size)) (v : Value) : List (Member g.size × Value) :=
  members.filterMap fun m =>
    if m.location = .query then (valueOf v m.name).map fun x => (m, x) else none

theorem queryMembers_cons (m : Member g.size) (rest : List (Member g.size)) (v : Value) :
    queryMembers (m :: rest) v = queryMembers [m] v ++ queryMembers rest v :=
  List.filterMap_append (l := [m])

/-- The parameters of members in the query, a list for each member. -/
def memberParams (members : List (Member g.size)) (v : Value) :
    Except Failure (List (List (Value × Value))) :=
  (queryMembers members v).mapM fun p => queryParams p.1 p.2

theorem memberParams_cons {m : Member g.size} {rest : List (Member g.size)}
    {first others : List (List (Value × Value))} (h : memberParams [m] v = .ok first)
    (h' : memberParams rest v = .ok others) :
    memberParams (m :: rest) v = .ok (first ++ others) := by
  rw [memberParams] at h h' ⊢
  rw [queryMembers_cons, List.mapM_append, h, ok_bind, h']
  rfl

/-- A member puts its parameters, if it is in the query, behind those before it. -/
theorem query_of_bind {m : Member g.size} {b b' : Bound} (h : bind v b m = .ok b') :
    ∃ params, memberParams [m] v = .ok params ∧ b'.query = b.query ++ params.flatten := by
  have hskip (hnone : queryMembers [m] v = []) (hquery : b'.query = b.query) :
      ∃ params, memberParams [m] v = .ok params ∧ b'.query = b.query ++ params.flatten :=
    ⟨[], by rw [memberParams, hnone]; rfl, by rw [hquery, List.flatten_nil, List.append_nil]⟩
  rw [bind] at h
  cases hvalue : valueOf v m.name with
  | none =>
    rw [hvalue] at h
    cases h
    exact hskip (by simp [queryMembers, hvalue]) rfl
  | some x =>
    rw [hvalue] at h
    dsimp only at h
    cases hlocation : m.location with
    | query =>
      rw [hlocation] at h
      obtain ⟨params, hparams, heq⟩ := exists_of_bind h
      cases heq
      refine ⟨[params], ?_, by rw [List.flatten_singleton]⟩
      have hone : queryMembers [m] v = [(m, x)] := by simp [queryMembers, hvalue, hlocation]
      rw [memberParams, hone, List.mapM_cons, hparams]
      rfl
    | uri =>
      rw [hlocation] at h
      obtain ⟨s, -, h⟩ := exists_of_bind h
      obtain ⟨labels, -, heq⟩ := exists_of_bind h
      cases heq
      exact hskip (by simp [queryMembers, hlocation]) rfl
    | header =>
      rw [hlocation] at h
      obtain ⟨fields, -, heq⟩ := exists_of_bind h
      cases heq
      exact hskip (by simp [queryMembers, hlocation]) rfl
    | body | statusCode =>
      rw [hlocation] at h
      cases h
      exact hskip (by simp [queryMembers, hlocation]) rfl

/-- The parameters of all members stand behind each other in declaration order. -/
theorem query_of_foldlM_bind {members : List (Member g.size)} {b b' : Bound}
    (h : members.foldlM (bind v) b = .ok b') :
    ∃ params, memberParams members v = .ok params ∧ b'.query = b.query ++ params.flatten := by
  induction members generalizing b with
  | nil =>
    cases h
    exact ⟨[], rfl, (List.append_nil _).symm⟩
  | cons m rest ih =>
    rw [List.foldlM_cons] at h
    obtain ⟨b₁, hstep, hrest⟩ := exists_of_bind h
    obtain ⟨first, hfirst, hb₁⟩ := query_of_bind hstep
    obtain ⟨others, hothers, hb'⟩ := ih hrest
    refine ⟨first ++ others, memberParams_cons hfirst hothers, ?_⟩
    rw [hb', hb₁, List.flatten_append, List.append_assoc]

theorem exists_text_of_entryParams {value : g.Ref} {entry : Value × Value}
    {params : List (Value × Value)} (h : entryParams g value entry = .ok params)
    {p : Value × Value} (hp : p ∈ params) : ∃ s, p.2 = .str s := by
  rw [entryParams] at h
  split at h
  · obtain ⟨items, -, h⟩ := exists_of_bind h
    obtain ⟨x, -, hx⟩ := exists_of_mem_mapM h hp
    obtain ⟨s, -, heq⟩ := exists_of_bind hx
    cases heq
    exact ⟨s, rfl⟩
  · obtain ⟨s, -, heq⟩ := exists_of_bind h
    cases heq
    obtain rfl := List.mem_singleton.mp hp
    exact ⟨s, rfl⟩

/-- The value of a parameter is always a text. -/
theorem exists_text_of_queryParams {m : Member g.size} {params : List (Value × Value)}
    (h : queryParams m v = .ok params) {p : Value × Value} (hp : p ∈ params) :
    ∃ s, p.2 = .str s := by
  rw [queryParams] at h
  split at h
  · obtain ⟨items, -, h⟩ := exists_of_bind h
    obtain ⟨x, -, hx⟩ := exists_of_mem_mapM h hp
    obtain ⟨s, -, heq⟩ := exists_of_bind hx
    cases heq
    exact ⟨s, rfl⟩
  · obtain ⟨entries, -, h⟩ := exists_of_bind h
    obtain ⟨groups, hgroups, h⟩ := exists_of_bind h
    cases h
    obtain ⟨group, hgroup, hp⟩ := List.mem_flatten.mp hp
    obtain ⟨entry, -, hentry⟩ := exists_of_mem_mapM hgroups hgroup
    exact exists_text_of_entryParams hentry hp
  · obtain ⟨s, -, heq⟩ := exists_of_bind h
    cases heq
    obtain rfl := List.mem_singleton.mp hp
    exact ⟨s, rfl⟩

theorem exists_text_of_memberParams {members : List (Member g.size)}
    {params : List (List (Value × Value))} (h : memberParams members v = .ok params)
    {p : Value × Value} (hp : p ∈ params.flatten) : ∃ s, p.2 = .str s := by
  obtain ⟨group, hgroup, hp⟩ := List.mem_flatten.mp hp
  obtain ⟨_, -, hmember⟩ := exists_of_mem_mapM h hgroup
  exact exists_text_of_queryParams hmember hp

/-! ### The whole URL -/

/-- The members of the input of an operation. -/
def inputMembers (w : RequestWriter g) : List (Member g.size) :=
  w.operation.input.elim [] g.members

theorem query_of_bound (binds : w.protocol.bindsLocations = true) {b : Bound}
    (h : w.bound v = .ok b) :
    ∃ params, memberParams w.inputMembers v = .ok params ∧ b.query = params.flatten := by
  rw [bound] at h
  rw [inputMembers]
  cases hinput : w.operation.input with
  | none =>
    rw [hinput] at h
    cases h
    exact ⟨[], rfl, rfl⟩
  | some r =>
    rw [hinput] at h
    dsimp only at h
    rw [if_pos binds] at h
    exact query_of_foldlM_bind h

/-- Parameters of texts are pairs of texts. -/
theorem exists_ofTexts {params : List (Value × Value)} (keys : ∀ p ∈ params, ∃ s, p.1 = .str s)
    (values : ∀ p ∈ params, ∃ s, p.2 = .str s) : ∃ pairs, params = UrlForm.ofTexts pairs := by
  induction params with
  | nil => exact ⟨[], rfl⟩
  | cons p rest ih =>
    obtain ⟨key, value⟩ := p
    obtain ⟨s, rfl⟩ := keys _ (List.mem_cons_self ..)
    obtain ⟨t, rfl⟩ := values _ (List.mem_cons_self ..)
    obtain ⟨pairs, rfl⟩ := ih (fun p hp => keys p (List.mem_cons_of_mem _ hp))
      fun p hp => values p (List.mem_cons_of_mem _ hp)
    exact ⟨(s, t) :: pairs, rfl⟩

theorem isNull_of_build (h : w.build v = .ok q) : v.isNull = false := by
  cases hv : v.isNull with
  | false => rfl
  | true =>
    rw [build, hv] at h
    cases h

/-- The path of a template is the template expanded. -/
theorem expand_of_path {template : String} {labels : List (String × Value)} {p : String}
    (h : path template labels = .ok p) : UriTemplate.expand template labels = .ok p := by
  rw [path] at h
  split at h
  · cases h
  · exact h

/-- A request that is written has the endpoint of its writer, its template expanded for a path, and
the parameters of its request URI and then of the members in the query. -/
theorem target_of_write {uri : String} (binds : w.protocol.bindsLocations = true)
    (isText : w.operation.uri = .str uri) (h : (w.write v).1 = .ok q) :
    ∃ params labels, memberParams w.inputMembers v = .ok params ∧ q.endpoint = w.endpoint ∧
      UriTemplate.expand (UriTemplate.split uri).1 labels = .ok q.path ∧
      q.query = UrlForm.ofTexts (UriTemplate.split uri).2 ++ params.flatten := by
  have hbuild := write_eq_ok_iff.mp h
  obtain ⟨uri', b, p, huri, hb, hp, hbody⟩ := (build_eq_ok_iff (isNull_of_build hbuild)).mp hbuild
  obtain rfl : uri = uri' := by
    rw [isText] at huri
    exact Except.ok.inj huri
  obtain ⟨params, hparams, hquery⟩ := query_of_bound binds hb
  have htarget := target_of_withBody hbody
  have hpath : q.path = p := congrArg (fun t => t.2.1) htarget
  refine ⟨params, b.labels, hparams, congrArg Prod.fst htarget, ?_, ?_⟩
  · rw [hpath]
    exact expand_of_path hp
  · rw [← hquery]
    exact congrArg (fun t => t.2.2) htarget

/-- What a request is written for cannot change the structure of its URL. Behind the endpoint
stands the path, up to the first question mark; no fragment begins anywhere; and the parameters
are read back as they were, the literal ones of the request URI before those of the members. -/
theorem exists_url_of_write {uri host : String} {rest : List Char} {n : Nat}
    (binds : w.protocol.bindsLocations = true) (isText : w.operation.uri = .str uri)
    (rooted : uri.toList = '/' :: rest)
    (plain : .literal '#' ∉ UriTemplate.pieces (UriTemplate.split uri).1)
    (isHost : Http.IsHost host) (endpoint : w.endpoint = .str (host ++ Http.slashes n))
    (h : (w.write v).1 = .ok q) (keys : ∀ p ∈ q.query, ∃ s, p.1 = .str s) :
    ∃ params pairs url, memberParams w.inputMembers v = .ok params ∧
      q.query = UrlForm.ofTexts (UriTemplate.split uri).2 ++ params.flatten ∧
      q.query = UrlForm.ofTexts pairs ∧ (∃ after, q.path.toList = '/' :: after) ∧
      q.url = .ok url ∧ '#' ∉ url.toList ∧
      Http.urlParts url = (Http.withScheme host "https" ++ q.path, pairs) := by
  obtain ⟨params, labels, hparams, hqendpoint, hexpand, hqquery⟩ := target_of_write binds isText h
  have values : ∀ p ∈ q.query, ∃ s, p.2 = .str s := by
    intro p hmem
    rw [hqquery, List.mem_append] at hmem
    rcases hmem with hmem | hmem
    · obtain ⟨pair, -, rfl⟩ := List.mem_map.mp hmem
      exact ⟨pair.2, rfl⟩
    · exact exists_text_of_memberParams hparams hmem
  obtain ⟨pairs, hpairs⟩ := exists_ofTexts keys values
  -- Neither separator stands in the endpoint or is a literal character of the path.
  have hfront {c : Char} (escaped : Percent.IsEscaped c) (hc : c ∉ host.toList)
      (scheme : c ∉ '/' :: "https://".toList)
      (literal : .literal c ∉ UriTemplate.pieces (UriTemplate.split uri).1) :
      c ∉ (Http.withScheme host "https" ++ q.path).toList := by
    rw [List.mem_cons, not_or] at scheme
    rw [String.toList_append, List.mem_append, not_or]
    exact ⟨Http.not_mem_withScheme hc scheme.2,
      UriTemplate.not_mem_expand escaped scheme.1 literal hexpand⟩
  have hquestion : .literal '?' ∉ UriTemplate.pieces (UriTemplate.split uri).1 :=
    UriTemplate.literal_not_mem (by decide) List.not_mem_nil (UriTemplate.not_mem_fst_split uri)
  obtain ⟨after, htemplate⟩ := UriTemplate.exists_fst_split rooted
  refine ⟨params, pairs, _, hparams, hqquery, hpairs,
    UriTemplate.exists_expand_slash htemplate hexpand,
    Http.Request.url_eq (Http.Request.base_eq isHost (hqendpoint.trans endpoint)) hpairs, ?_,
    Http.urlParts_append (hfront (by decide) isHost.plain.1 (by decide) hquestion) pairs⟩
  rw [String.toList_append, List.mem_append, not_or]
  exact ⟨hfront (by decide) isHost.plain.2 (by decide) plain,
    Http.not_mem_queryText (by decide) (by decide) pairs⟩

/-- The texts among the shapes of an album. -/
def albumText : Fin 4 := ⟨1, by decide⟩

/-- The shapes of a request for a page of an album: the album and the page are in the path, and in
the query stands what else is asked for. -/
def albums : Graph where
  size := 4
  shapes := #v[
    { name := "Album"
      form := .struct
        [{ name := "Album", shape := albumText, location := .uri },
          { name := "Marks", shape := ⟨3, by decide⟩, location := .query },
          { name := "Page", shape := albumText, location := .uri },
          { name := "Size", shape := albumText, location := .query,
            locationName := .str "size" }] },
    { name := "Text", form := .scalar .string }, { name := "Texts", form := .list albumText },
    { name := "Marks", form := .map albumText ⟨2, by decide⟩ }]

/-- What writes requests for pages of albums. -/
def albumWriter : RequestWriter albums where
  protocol := .restJson
  operation := .ofShapes albums (.str "Show") (some ⟨0, by decide⟩) none "get"
    (.str "/\x7bAlbum\x7d/\x7bPage+\x7d?show") none
  codec := .complete .json true .null
  endpoint := .str "albums/"

/-- A page of an album, asked for with all that could be taken for a separator. -/
def albumRequest : Value :=
  .ofFields [("Size", .str "a&b=c"), ("Page", .str "x/y#z"), ("Album", .str "1/2?3"),
    ("Marks", .ofFields [("#", .list [.str "?", .str "+"])])]

/-- The request for the page. -/
def writtenAlbum : Http.Request where
  method := .str "GET"
  path := "/1%2F2%3F3/x/y%23z"
  query := UrlForm.ofTexts [("show", ""), ("#", "?"), ("#", "+"), ("size", "a&b=c")]
  endpoint := .str "albums/"

theorem exists_url_of_write_album :
    (albumWriter.write albumRequest).1 = .ok writtenAlbum ∧
      ∃ pairs url, writtenAlbum.query = UrlForm.ofTexts pairs ∧ writtenAlbum.url = .ok url ∧
        '#' ∉ url.toList ∧ Http.urlParts url = ("https://albums/1%2F2%3F3/x/y%23z", pairs) := by
  have hwrite : (albumWriter.write albumRequest).1 = .ok writtenAlbum := by
    cbv
  have hhost : Http.IsHost "albums" := ⟨by decide, by decide, by decide, by decide⟩
  have hplain : .literal '#' ∉
      UriTemplate.pieces (UriTemplate.split "/\x7bAlbum\x7d/\x7bPage+\x7d?show").1 := by
    decide
  have hkeys : ∀ p ∈ writtenAlbum.query, ∃ s, p.1 = .str s := by
    intro p hp
    obtain ⟨pair, -, rfl⟩ := List.mem_map.mp hp
    exact ⟨pair.1, rfl⟩
  have hfront : Http.withScheme "albums" "https" ++ writtenAlbum.path =
      "https://albums/1%2F2%3F3/x/y%23z" := by
    rfl
  obtain ⟨params, pairs, url, -, -, hpairs, -, hurl, hnone, hparts⟩ :=
    exists_url_of_write (n := 1) rfl rfl rfl hplain hhost rfl hwrite hkeys
  exact ⟨hwrite, pairs, url, hpairs, hurl, hnone, hfront ▸ hparts⟩

end RequestWriter

end ServiceWire
