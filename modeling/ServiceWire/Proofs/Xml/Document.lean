import ServiceWire.Proofs.Text.Percent
import ServiceWire.Proofs.Xml.Content

/-!
# Documents read back

A plain tree is written as a document that is read as the tree, but for two things. All its elements
are in the namespace that its root declares, and the line ends in the texts of elements are line
feeds: a reader makes them so before it looks at the markup, and the writer only spells out the line
ends of attribute values.
-/

namespace ServiceWire.Xml

/-! ### Namespaces -/

/-- A namespace that a document may declare for the names without a prefix. -/
structure Declarable (uri : String) : Prop where
  allowed : IsAllowedText uri
  closed : '\x7d' ∉ uri.toList
  unreserved : uri ≠ xmlUri ∧ uri ≠ xmlnsUri

/-- The tree with a namespace declared for the names without a prefix, unless it is empty. -/
def Element.declaring (uri : String) : Element → Element
  | .node tag attributes text children =>
    .node tag (if uri.isEmpty then attributes else attributes ++ [(.str "xmlns", .str uri)]) text
      children

/-- The attributes of a root that declares a namespace. -/
def declaringAttributes (uri : String) (attributes : List (String × String)) :
    List (String × String) :=
  if uri.isEmpty then attributes else attributes ++ [("xmlns", uri)]

theorem declaring_node (uri : String) (tag : Value) (attributes : List (String × String))
    (text : String) (children : List Element) :
    (Element.node tag (textAttributes attributes) text children).declaring uri =
      .node tag (textAttributes (declaringAttributes uri attributes)) text children := by
  rw [Element.declaring, declaringAttributes]
  split
  · rfl
  · rw [textAttributes, textAttributes, List.map_append]
    rfl

theorem map_declaring (uri : String) (name : Value → Value) (content : String → String)
    (e : Element) : (e.declaring uri).map name content = (e.map name content).declaring uri := by
  cases e
  rfl

theorem PlainAttributes.declaring {attributes : List (String × String)}
    (h : PlainAttributes attributes) (fresh : "xmlns" ∉ attributes.map Prod.fst) {uri : String}
    (allowed : IsAllowedText uri) : PlainAttributes (declaringAttributes uri attributes) := by
  rw [declaringAttributes]
  split
  · exact h
  · refine ⟨List.forall_mem_append.mpr ⟨h.names, ?_⟩, ?_,
      List.forall_mem_append.mpr ⟨h.allowed, List.forall_mem_singleton.mpr allowed⟩⟩
    · exact List.forall_mem_singleton.mpr (by decide : IsName "xmlns")
    · rw [List.map_append]
      refine List.nodup_append.mpr ⟨h.distinct, List.nodup_singleton _, ?_⟩
      rintro name hname _ hxmlns rfl
      obtain rfl : name = "xmlns" := List.mem_singleton.mp hxmlns
      exact fresh hname

theorem Plain.declaring {e : Element} (he : Plain false e) {uri : String}
    (allowed : IsAllowedText uri) : Plain true (e.declaring uri) := by
  cases he with
  | node name plain undeclared hallowed inner =>
    rw [declaring_node]
    exact .node name (plain.declaring (undeclared rfl) allowed) (fun h => by cases h) hallowed inner

/-! ### The root -/

theorem Scope.declare?_default (scope : Scope) {uri : String} (h : Declarable uri) :
    scope.declare? "" uri = some (("", uri) :: scope) := by
  have hclosed : Text.containsText uri "\x7d" = false := by
    refine Bool.eq_false_iff.mpr fun hcontains => h.closed ?_
    exact Text.subset_of_occursIn hcontains (by decide)
  have hxml : (uri == xmlUri) = false := beq_false_of_ne h.unreserved.1
  have hxmlns : (uri == xmlnsUri) = false := beq_false_of_ne h.unreserved.2
  rw [declare?, hclosed, hxml, hxmlns]
  rfl

/-- The scope inside a root that declares a namespace. -/
def rootScope (uri : String) : Scope :=
  if uri.isEmpty then .initial else ("", uri) :: Scope.initial

theorem default_rootScope (uri : String) : (rootScope uri).default = uri := by
  rw [rootScope]
  split
  · rename_i hempty
    rw [String.isEmpty_iff.mp hempty]
    rfl
  · rfl

section Root

variable {uri : String} (h : Declarable uri) {attributes : List (String × String)}
  (fresh : "xmlns" ∉ attributes.map Prod.fst)

include h fresh

theorem enter?_root : Scope.initial.enter? (qualified (declaringAttributes uri attributes)) =
    some (rootScope uri) := by
  have hattributes := Scope.initial.enter?_undeclared fresh
  cases hempty : uri.isEmpty with
  | true => rwa [declaringAttributes, rootScope, if_pos hempty, if_pos hempty]
  | false =>
    rw [Scope.enter?] at hattributes
    rw [declaringAttributes, rootScope, hempty, if_neg Bool.false_ne_true,
      if_neg Bool.false_ne_true, Scope.enter?, qualified, List.map_append, List.foldlM_append]
    rw [qualified] at hattributes
    rw [hattributes]
    change (Scope.initial.declare? "" uri >>= fun scope => some scope) = _
    rw [Scope.initial.declare?_default h]
    exact rfl

omit h in
theorem attributes?_root (distinct : (attributes.map Prod.fst).Nodup) (scope : Scope) :
    scope.attributes? (qualified (declaringAttributes uri attributes)) = some attributes := by
  have hattributes := scope.attributes?_undeclared distinct fresh
  rw [declaringAttributes]
  split
  · exact hattributes
  · rw [Scope.attributes?] at hattributes ⊢
    rw [qualified, List.map_append, List.filter_append]
    rw [qualified] at hattributes
    exact (congrArg (List.foldlM _ _) (List.append_nil _)).trans hattributes

end Root

/-- A plain tree that declares a namespace for itself is read as a root in that namespace. -/
theorem Plain.advances_root {e : Element} (he : Plain false e) {uri : String} (h : Declarable uri)
    (P : List Char → Prop) : Building.Advances P (e.declaring uri).written ⟨[], none⟩
      ⟨[], some (e.map (inNamespace uri) id)⟩ := by
  cases he with
  | @node _ tag attributes text children name plain undeclared _ inner =>
    have fresh := undeclared rfl
    have hopens : Building.Opens ⟨[], none⟩ tag (declaringAttributes uri attributes)
        ⟨⟨none, tag⟩, expandedName uri tag, attributes, [], [], rootScope uri⟩ :=
      { name
        admits := fun _ => rfl
        plain := plain.declaring fresh h.allowed
        named := rfl
        enter := enter?_root h fresh
        expanded := congrArg (expandedName · tag) (default_rootScope uri).symm
        keep := attributes?_root fresh plain.distinct _
        text := rfl
        children := rfl }
    have hnode := hopens.advances_node text (fun e he b hb P => (inner e he).advances hb P) P
    rw [default_rootScope] at hnode
    rw [declaring_node, Element.written, text_textAttributes]
    exact hnode

/-! ### Whole documents -/

/-- A text that begins as an element does: neither a declaration nor a document type comes first. -/
def BeginsElement (cs : List Char) : Prop :=
  ∃ c rest, cs = '<' :: c :: rest ∧ isNameStart c = true

theorem Plain.beginsElement {mayDeclare : Bool} {e : Element} (he : Plain mayDeclare e) :
    BeginsElement e.written := by
  cases he with
  | node name =>
    obtain ⟨c, rest, htag, hc, -⟩ := name
    rw [Element.written, elementText, Value.text, htag, List.cons_append]
    exact ⟨c, _, rfl, hc⟩

theorem prolog?_of_beginsElement {cs : List Char} (h : BeginsElement cs) (standsAlone : Bool)
    (fuel : Nat) : prolog? standsAlone (fuel + 1) none cs = some ({}, cs) := by
  obtain ⟨c, rest, rfl, hc⟩ := h
  have hmark : ∀ {d : Char}, isNameStart d = false → c ≠ d := by
    rintro d hd rfl
    rw [hc] at hd
    cases hd
  rw [prolog?, skipSpace_cons rfl]
  split
  · rename_i heq
    exact absurd (List.cons.inj (List.cons.inj heq).2).1 (hmark rfl)
  · rename_i heq
    exact absurd (List.cons.inj (List.cons.inj heq).2).1 (hmark rfl)
  · rename_i heq
    exact absurd (List.cons.inj (List.cons.inj heq).2).1 (hmark rfl)
  · rfl

/-- The tree that is read from the characters of a document. -/
theorem Plain.tree_written {e : Element} (he : Plain false e) {uri : String} (h : Declarable uri)
    (standsAlone : Bool) : Source.tree ⟨(e.declaring uri).written, standsAlone⟩ =
      .ok (e.map (inNamespace uri) id) := by
  have hbegins := (he.declaring h.allowed).beginsElement
  rw [Source.tree, markup?, prolog?_of_beginsElement hbegins]
  simp only [bind, Option.bind_some]
  obtain ⟨fuel, hfuel, heq⟩ := he.advances_root h (fun _ => True)
    (entityMarkup? {} ({} : DocumentType).entities.declared.length [])
    ((e.declaring uri).written.length + 1) [] trivial (by simp)
  rw [List.append_nil, Building.finish?, Building.finish?] at heq
  obtain ⟨fuel, rfl⟩ := Nat.exists_eq_succ_of_ne_zero (Nat.ne_zero_of_lt hfuel)
  rw [heq, content?]
  rfl

/-! ### Bytes -/

/-- The first byte of a character is the character itself, or is none of ASCII. -/
theorem exists_lead (c : Char) : ∃ b more, String.utf8EncodeChar c = b :: more ∧
    (b < 0x80 → Char.ofNat b.toNat = c) := by
  have hlead : ∀ {n : Nat}, 0x80 ≤ n → n < 0x100 → ¬UInt8.ofNat n < 0x80 := by
    intro n hlow hhigh hlt
    rw [UInt8.lt_iff_toNat_lt, Utf8.toNat_ofNat hhigh] at hlt
    exact absurd hlt (Nat.not_lt.mpr hlow)
  rw [String.utf8EncodeChar]
  split_ifs with hone htwo hthree
  · refine ⟨_, _, rfl, fun _ => ?_⟩
    show Char.ofNat (UInt8.ofNat c.val.toNat).toNat = c
    rw [Utf8.toNat_ofNat (by omega)]
    exact Char.ofNat_toNat c
  · exact ⟨_, _, rfl, fun hlt => absurd hlt (hlead (by omega) (by omega))⟩
  · exact ⟨_, _, rfl, fun hlt => absurd hlt (hlead (by omega) (by omega))⟩
  · exact ⟨_, _, rfl, fun hlt => absurd hlt (hlead (by omega) (by omega))⟩

theorem splitDeclaration_of_ne {c d : Char} (h : d ≠ '?') (rest : List Char) :
    splitDeclaration (c :: d :: rest) = .ok ({}, c :: d :: rest) := by
  have hnone : Text.dropStart? (c :: d :: rest) "<?xml".toList = none := by
    show Text.dropStart? (c :: d :: rest) ['<', '?', 'x', 'm', 'l'] = none
    rw [Text.dropStart?, Text.dropStart?, beq_false_of_ne h, if_neg Bool.false_ne_true, ite_self]
  rw [splitDeclaration, hnone]

/-- Bytes that begin as an element does have no declaration, whatever their encoding. -/
theorem splitDeclaration_latin1 {b : UInt8} (h : b ≠ 0x3F) (rest : Bytes) :
    ∃ cs, splitDeclaration ((Charset.latin1.decode? (0x3C :: b :: rest)).getD []) =
      .ok ({}, cs) := by
  have hupper : (Charset.latin1.upper.toList.contains '?') = false := by
    rw [Charset.latin1, String.toList_ofList]
    decide +kernel
  cases hdecode : Charset.latin1.decode? (0x3C :: b :: rest) with
  | none => exact ⟨_, rfl⟩
  | some cs =>
    simp only [Charset.decode?, List.mapM_cons, Option.bind_eq_bind, Option.bind_eq_some_iff,
      Option.pure_def, Option.some.injEq] at hdecode
    obtain ⟨c, -, _, ⟨d, hd, more, -, rfl⟩, rfl⟩ := hdecode
    refine ⟨_, splitDeclaration_of_ne ?_ more⟩
    rintro rfl
    rw [Charset.charOf?] at hd
    split at hd
    · refine h (UInt8.toNat_inj.mp ?_)
      have hnat := congrArg Char.toNat (Option.some.inj hd)
      rwa [Percent.toNat_ofNat_byte] at hnat
    · obtain ⟨hmem, -⟩ := Option.filter_eq_some_iff.mp hd
      have hmem := Array.mem_of_getElem? hmem
      rw [List.mem_toArray, ← List.contains_iff_mem, hupper] at hmem
      cases hmem

theorem splitNamed_of_lead {cs : List Char} {b : UInt8} {more : Bytes} (h : BeginsElement cs)
    (hbytes : bytesOf (String.ofList cs) = 0x3C :: b :: more) (hb : b ≠ 0x3F) :
    splitNamed (0x3C :: b :: more) = .ok ({}, cs) := by
  obtain ⟨c, rest, rfl, hc⟩ := h
  have hmark : c ≠ '?' := by
    rintro rfl
    cases hc
  obtain ⟨view, hview⟩ := splitDeclaration_latin1 hb more
  rw [splitNamed, hview, ← hbytes, Utf8.decode?_encode]
  simp only [bind, Except.bind, Option.elim_none, Option.map_some, String.toList_ofList, orMalformed,
    Option.elim_some]
  exact splitDeclaration_of_ne hmark rest

/-- A document without a declaration is read as UTF-8. -/
theorem BeginsElement.ofBytes {cs : List Char} (h : BeginsElement cs)
    (allowed : ∀ c ∈ cs, isAllowed c = true) :
    Source.ofBytes (bytesOf (String.ofList cs)) = .ok ⟨unifyLineEnds cs, false⟩ := by
  obtain ⟨c, rest, hcs, hc⟩ := h
  obtain ⟨b, more, hlead, hascii⟩ := exists_lead c
  have hbytes : bytesOf (String.ofList cs) =
      0x3C :: b :: (more ++ rest.flatMap String.utf8EncodeChar) := by
    rw [bytesOf, Utf8.encode_eq_flatMap, String.toList_ofList, hcs, List.flatMap_cons,
      List.flatMap_cons, hlead]
    rfl
  -- A name begins neither with the byte of a mark nor with the other half of a wide character.
  have hne : ∀ {d : UInt8}, d < 0x80 → isNameStart (Char.ofNat d.toNat) = false → b ≠ d := by
    rintro d hd hstart rfl
    rw [hascii hd, hc] at hstart
    cases hstart
  have hzero : b ≠ 0x00 := hne (by decide) (by decide)
  have hsplit := splitNamed_of_lead ⟨c, rest, hcs, hc⟩ hbytes (hne (by decide) (by decide))
  rw [hbytes, Source.ofBytes]
  · rw [hsplit]
    simp only [bind, Except.bind, Source.ofSplit]
    rw [if_pos (List.all_eq_true.mpr allowed)]
  · exact fun _ heq => absurd (List.cons.inj heq).1 (by decide)
  · exact fun _ heq => absurd (List.cons.inj heq).1 (by decide)
  · exact fun _ heq => absurd (List.cons.inj heq).1 (by decide)
  · exact fun _ heq => hzero (List.cons.inj (List.cons.inj heq).2).1
  · exact fun _ heq => absurd (List.cons.inj heq).1 (by decide)

/-- The tree that is read from the text of a document: its elements are in the namespace of the
document, and the line ends in their texts are line feeds. -/
theorem Plain.parse_written {e : Element} (he : Plain false e) {uri : String} (h : Declarable uri) :
    parse (bytesOf (String.ofList (e.declaring uri).written)) =
      .ok (e.map (inNamespace uri) unified) := by
  have hdeclaring := he.declaring h.allowed
  have hunified : unifyLineEnds (e.declaring uri).written =
      ((e.map id unified).declaring uri).written := by
    have hwritten := hdeclaring.unifyLineEnds_written []
    rw [List.append_nil, map_declaring] at hwritten
    rw [hwritten, unifyLineEnds, List.append_nil]
  rw [parse, hdeclaring.beginsElement.ofBytes hdeclaring.isAllowed_written, hunified]
  exact (he.unify.tree_written h false).trans (congrArg _ (Element.map_map ..))

end ServiceWire.Xml
