import ServiceWire.Json.Reader
import ServiceWire.Json.Writer
import ServiceWire.Proofs.Codec.JsonRoundTrip
import ServiceWire.Proofs.Number.Digits

/-!
# Texts of JSON bodies read back

The text of a document that a well-typed value was written as is read back as the value, provided
that reading such a text gives the document that was rendered. A body that is a document at all is
not blank, so it is never taken for an empty object.
-/

namespace ServiceWire

/-! ### Blank texts -/

theorem Text.isBlank_of_strip_isEmpty {s : String} (h : (strip s).isEmpty = true) :
    ∀ c ∈ s.toList, isBlank c = true := by
  have htrim : trimBy isBlank s.toList = [] := by
    rw [strip, String.isEmpty_iff] at h
    exact String.ofList_eq_empty_iff.mp h
  rw [trimBy, List.reverse_eq_nil_iff, List.dropWhile_eq_nil_iff] at htrim
  intro c hc
  rw [← List.takeWhile_append_dropWhile (p := isBlank) (l := s.toList)] at hc
  rcases List.mem_append.mp hc with h1 | h2
  · exact List.mem_takeWhile_imp h1
  · exact htrim c (List.mem_reverse.mpr h2)

namespace Json

theorem word?_of_isBlank {c : Char} (hc : Text.isBlank c = true) (cs : List Char) :
    word? (c :: cs) = none := by
  have hwords : ∀ w ∈ words.map fun w => w.1.toList, w.head?.any Text.isBlank = false ∧ w ≠ [] := by
    decide
  rw [word?, List.findSome?_eq_none_iff]
  intro w hw
  obtain ⟨hfirst, hne⟩ := hwords _ (List.mem_map_of_mem hw)
  cases hl : w.1.toList with
  | nil => exact absurd hl hne
  | cons a as =>
    have hca : (c == a) = false := by
      refine beq_false_of_ne ?_
      rintro rfl
      rw [hl, List.head?_cons, Option.any_some, hc] at hfirst
      cases hfirst
    rw [Text.dropStart?, hca, if_neg Bool.false_ne_true, Option.map_none]

theorem wholePart?_of_isBlank {c : Char} (hc : Text.isBlank c = true) (cs : List Char) :
    wholePart? (c :: cs) = none := by
  have hdigit : Number.isDigit c = false := by
    refine Bool.eq_false_iff.mpr fun hd => ?_
    rw [(Number.isVisibleChar_of_isDigit hd).not_blank] at hc
    cases hc
  unfold wholePart?
  split
  · rename_i heq
    cases heq
    cases hdigit
  · rename_i heq
    cases heq
    rw [hdigit, if_neg Bool.false_ne_true]
  · rfl

/-- No document begins with a blank character that was not skipped. -/
theorem value?_of_isBlank {c : Char} (hc : Text.isBlank c = true) (fuel : Nat) (cs : List Char) :
    value? fuel (c :: cs) = none := by
  have hne : ∀ a : Char, Text.isBlank a = false → c ≠ a := by
    rintro a ha rfl
    rw [ha] at hc
    cases hc
  cases fuel with
  | zero => rw [value?]
  | succ fuel =>
    have hatom : atom? (c :: cs) = none := by
      have hnumber : number? false (c :: cs) = none := by
        rw [number?, wholePart?_of_isBlank hc]
        rfl
      simp only [atom?, word?_of_isBlank hc]
      split
      · rename_i heq
        exact absurd (List.cons.inj heq).1 (hne '-' (by decide))
      · exact hnumber
    unfold value?
    split
    · rename_i heq
      exact absurd (List.cons.inj heq).1 (hne '"' (by decide))
    · rename_i heq
      exact absurd (List.cons.inj heq).1 (hne '[' (by decide))
    · rename_i heq
      exact absurd (List.cons.inj heq).1 (hne '\x7b' (by decide))
    · exact hatom

theorem value?_nil (fuel : Nat) : value? fuel [] = none := by
  cases fuel with
  | zero => rw [value?]
  | succ fuel => rfl

/-- A text that is a document is not blank. -/
theorem not_isEmpty_strip_of_parse? {s : String} {d : Json} (h : parse? s = some d) :
    (Text.strip s).isEmpty = false := by
  refine Bool.eq_false_iff.mpr fun hempty => ?_
  have hblank := Text.isBlank_of_strip_isEmpty hempty
  have hnone : ∀ fuel, value? fuel (skipBlank s.toList) = none := by
    intro fuel
    cases hs : skipBlank s.toList with
    | nil => exact value?_nil fuel
    | cons c cs =>
      have hmem : c ∈ s.toList := by
        have hsub : (skipBlank s.toList).Sublist s.toList := List.dropWhile_sublist _
        rw [hs] at hsub
        exact hsub.subset (List.mem_cons_self ..)
      exact value?_of_isBlank (hblank c hmem) fuel cs
  rw [parse?] at h
  simp only [hnone] at h
  cases h

end Json

namespace JsonBody

variable {g : Graph} {notes : Bool} {ns : Value}

/-! ### Whole values -/

theorem toDocument_none (v : Value) (r : g.Ref) :
    toDocument (.complete .json notes ns) g v r none =
      write (.complete .json notes ns) g v r := by
  rw [toDocument]
  split
  · rename_i members hform
    rw [write_eq, writeView]
    simp only [hform, Option.getD_none]
  · rw [Codec.needWriter_complete]
    rfl

theorem ofDocument_none (d : Value) (r : g.Ref) :
    ofDocument (.complete .json notes ns) g d r none =
      read (.complete .json notes ns) g d r := by
  rw [ofDocument]
  split
  · rename_i members hform
    rw [read_eq, readView]
    simp only [hform, Option.getD_none, readSome]
  · rw [Codec.needReader_complete notes ns (by decide), Reading.ofOutcome_ok, pure_bind]

theorem encode_of_toDocument {c : Codec} {v : Value} {r : g.Ref}
    {members : Option (List (Member g.size))} {d : Json}
    (h : toDocument c g v r members = .ok d.toValue) :
    encode c g v r members = .ok (bytesOf d.render) := by
  rw [encode, h]
  show ((Json.ofValue d.toValue).mapError Fault.failure).bind _ = _
  rw [Json.ofValue_toValue]
  rfl

/-- The text of a document is not empty. -/
theorem truthy_render {d : Json} (h : Json.parse? d.render = some d) :
    (Value.ofBytes (bytesOf d.render)).truthy = true := by
  have hnotBlank := Json.not_isEmpty_strip_of_parse? h
  rw [Value.truthy]
  cases hb : bytesOf d.render with
  | cons b bs => rfl
  | nil =>
    have hdecode : Utf8.decode? (bytesOf d.render) = some d.render := Utf8.decode?_encode _
    rw [hb] at hdecode
    have hempty : d.render = "" := Option.some.inj (hdecode.symm.trans (Utf8.decode?_encode ""))
    rw [hempty] at hnotBlank
    cases hnotBlank

theorem parseText_render {d : Json} (h : Json.parse? d.render = some d) :
    parseText d.render = .ok d.toValue := by
  rw [parseText, h]

theorem parse_render {d : Json} (h : Json.parse? d.render = some d) :
    parse (bytesOf d.render) = .ok d.toValue := by
  rw [parse, textOf, Utf8.decode?_encode]
  exact parseText_render h

/-- A structure is written as an object. -/
theorem exists_object_of_written {c : Codec} {r : g.Ref} {members : List (Member g.size)}
    {v : Value} {d : Json} (form : (g.shape r).form = .struct members)
    (h : write c g v r = .ok d.toValue) : ∃ entries, d = .object entries := by
  rw [write_eq, writeView] at h
  simp only [form] at h
  obtain ⟨entries, -, hd⟩ := exists_of_map h
  cases d with
  | object entries => exact ⟨entries, rfl⟩
  | _ => cases hd

theorem bodyText_bytesOf (s : String) : bodyText (.ofBytes (bytesOf s)) = .ok s := by
  rw [bodyText, textOf, Utf8.decode?_encode]

/-- A body is read by its document. -/
theorem decode_render {d : Json} (h : Json.parse? d.render = some d) (r : g.Ref) :
    decode (.complete .json notes ns) g (.ofBytes (bytesOf d.render)) r none =
      ofDocument (.complete .json notes ns) g d.toValue r none := by
  rw [decode, truthy_render h, if_pos rfl, bodyText_bytesOf]
  simp only [Reading.ofConversion_ok, pure_bind, Json.not_isEmpty_strip_of_parse? h,
    Bool.false_eq_true, if_false, parseText_render h]

/-- Every well-typed value is written as a document that is read back as the value. The text of the
document is a body that is read back as the value too, if reading a text undoes rendering it. -/
theorem exists_readBack (notes : Bool) (ns : Value) (hg : ∀ r, Distinct (g.shape r)) {r : g.Ref}
    {v : Value} (h : WellTyped g (demands g) r v) :
    ∃ (d : Json) (w : Value), w.Alike v ∧
      toDocument (.complete .json notes ns) g v r none = .ok d.toValue ∧
      (ofDocument (.complete .json notes ns) g d.toValue r none).outcome = .ok w ∧
      (Json.parse? d.render = some d →
        ∃ body, encode (.complete .json notes ns) g v r none = .ok body ∧
          (decode (.complete .json notes ns) g (.ofBytes body) r none).outcome = .ok w) := by
  obtain ⟨d, w, hd⟩ := exists_roundTrip notes ns hg h
  have hwrite := (toDocument_none v r).trans hd.written
  have hread : (ofDocument (.complete .json notes ns) g d.toValue r none).outcome = .ok w := by
    rw [ofDocument_none, hd.read, Reading.outcome_pure]
  refine ⟨d, w, hd.alike, hwrite, hread, fun hparse => ?_⟩
  refine ⟨bytesOf d.render, encode_of_toDocument hwrite, ?_⟩
  rw [decode_render hparse, hread]

/-- A tree: a label and its branches, which are trees. -/
def tree : Shape 3 where
  name := "Tree"
  form := .struct
    [{ name := "label", shape := 1, locationName := .str "l" }, { name := "branches", shape := 2 }]

/-- The shapes of trees; the first contains itself through the third. -/
def trees : Graph where
  size := 3
  shapes := #v[tree, { name := "Label", form := .scalar .string },
    { name := "Branches", form := .list 0 }]

/-- A tree without branches. -/
def leaf (label : String) : Value := .ofFields [("label", .str label)]

/-- A tree with a leaf, whose members stand in another order than those of the shape. -/
def sapling : Value := .ofFields [("branches", .list [leaf "x"]), ("label", .str "y")]

/-- The document of a tree with a leaf. -/
def saplingDocument : Json :=
  .object [("l", .str "y"), ("branches", .array [.object [("l", .str "x")]])]

theorem distinct_trees (r : trees.Ref) : Distinct (trees.shape r) := by
  have htree : Distinct tree :=
    ⟨rfl, by decide, by simp [tree, Shape.members, Member.wireName, Value.orElse, Value.truthy,
      Value.text], by decide⟩
  have hempty {s : Shape 3} (hc : s.construct = none) (hm : s.members = []) : Distinct s :=
    ⟨hc, by simp [hm], by simp [hm], by simp [hm]⟩
  rcases r with ⟨_ | _ | _ | i, hi⟩
  · exact htree
  · exact hempty rfl rfl
  · exact hempty rfl rfl
  · exact absurd hi (Nat.not_lt.mpr (Nat.le_add_left 3 i))

theorem form_tree : (trees.shape ⟨0, by decide⟩).form = .struct tree.members := rfl

theorem wellTyped_label (text : String) :
    WellTyped trees (demands trees) ⟨1, by decide⟩ (.str text) :=
  .scalar rfl (.string text) trivial

theorem wellTyped_leaf (label : String) :
    WellTyped trees (demands trees) ⟨0, by decide⟩ (leaf label) := by
  have known : ∀ name ∈ ["label"], name ∈ tree.members.map Member.name := by decide
  refine .of_present form_tree (List.nodup_singleton _) known ?_
  exact List.forall_mem_singleton.mpr ⟨wellTyped_label label, trivial⟩

theorem wellTyped_sapling : WellTyped trees (demands trees) ⟨0, by decide⟩ sapling := by
  have hbranches : WellTyped trees (demands trees) ⟨2, by decide⟩ (.list [leaf "x"]) :=
    .list rfl (List.forall_mem_singleton.mpr (wellTyped_leaf "x"))
  refine .of_present form_tree (by decide) (by decide) ?_
  exact List.forall_mem_cons.mpr ⟨⟨wellTyped_label "y", trivial⟩,
    List.forall_mem_singleton.mpr ⟨hbranches, trivial⟩⟩

theorem parse?_saplingDocument : Json.parse? saplingDocument.render = some saplingDocument := by
  cbv

theorem toDocument_sapling :
    toDocument (.complete .json true .null) trees sapling ⟨0, by decide⟩ none =
      .ok saplingDocument.toValue := by
  cbv

/-- The text of a tree with a leaf is read back as the tree. -/
theorem exists_readBack_sapling :
    ∃ body w, encode (.complete .json true .null) trees sapling ⟨0, by decide⟩ none = .ok body ∧
      (decode (.complete .json true .null) trees (.ofBytes body) ⟨0, by decide⟩ none).outcome =
        .ok w ∧ w.Alike sapling := by
  obtain ⟨d, w, halike, hwrite, -, htext⟩ :=
    exists_readBack true .null distinct_trees wellTyped_sapling
  obtain rfl : d = saplingDocument :=
    Json.toValue_injective (Except.ok.inj (hwrite.symm.trans toDocument_sapling))
  obtain ⟨body, hencode, hdecode⟩ := htext parse?_saplingDocument
  exact ⟨body, w, hencode, hdecode, halike⟩

end JsonBody

end ServiceWire
