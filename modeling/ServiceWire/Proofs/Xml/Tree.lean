import ServiceWire.Proofs.Entries
import ServiceWire.Proofs.Text.Ascii
import ServiceWire.Xml.Reader
import ServiceWire.Xml.Writer

/-!
# Trees as texts

A tree of names without colons and of texts that XML allows has a text of its own: no prefix is
needed, so nothing depends on what has been written before. The text leaves line ends alone in the
texts of elements, where a reader makes line feeds of them, and spells them out in attribute values,
where they stay what they are.
-/

namespace ServiceWire.Xml

/-! ### Names -/

/-- A name without a colon. -/
def IsName (s : String) : Prop :=
  ∃ c rest, s.toList = c :: rest ∧ isNameStart c = true ∧ ∀ d ∈ rest, isNameChar d = true

instance (s : String) : Decidable (IsName s) :=
  decidable_of_iff ((match s.toList with
    | [] => false
    | c :: rest => isNameStart c && rest.all isNameChar) = true) <| by
    rw [IsName]
    cases s.toList with
    | nil => simp
    | cons c rest => simp

theorem isNameChar_of_isNameStart {c : Char} (h : isNameStart c = true) : isNameChar c = true := by
  rw [isNameStart] at h
  rw [isNameChar]
  split at h
  · rename_i hc
    rw [if_pos hc, Char.isAlphanum]
    rcases Bool.or_eq_true_iff.mp h with h | h
    · simp only [h, Bool.true_or]
    · simp only [h, Bool.or_true, Bool.true_or]
  · rename_i hc
    rw [if_neg hc, h, Bool.true_or]

theorem IsName.all {s : String} (h : IsName s) : ∀ c ∈ s.toList, isNameChar c = true := by
  obtain ⟨first, rest, hs, hfirst, hrest⟩ := h
  rw [hs]
  exact List.forall_mem_cons.mpr ⟨isNameChar_of_isNameStart hfirst, hrest⟩

theorem ne_of_isNameChar {c d : Char} (hc : isNameChar c = true) (hd : isNameChar d = false) :
    c ≠ d := by
  rintro rfl
  rw [hc] at hd
  cases hd

/-- No mark of XML is part of a name. -/
theorem IsName.not_mem {s : String} (h : IsName s) {c : Char} (hc : isNameChar c = false) :
    c ∉ s.toList := fun hmem => ne_of_isNameChar (h.all c hmem) hc rfl

/-- XML allows the characters of names. -/
theorem isAllowed_of_isNameChar {c : Char} (h : isNameChar c = true) : isAllowed c = true := by
  have hranges : (CharClass.xmlNameStart.ranges ++ CharClass.xmlNameExtra.ranges).all
      (fun r => 0x20 ≤ r.1 && r.2 < 0xFFFE) = true := by
    decide +kernel
  have hclass : ∀ {k : CharClass}, k.ranges ⊆
      CharClass.xmlNameStart.ranges ++ CharClass.xmlNameExtra.ranges → k.contains c = true →
        0x20 ≤ c.toNat ∧ c.toNat < 0xFFFE := by
    intro k hk hc
    obtain ⟨r, hr, hle, hge⟩ := CharClass.contains_eq_true_iff.mp hc
    have hbounds := List.all_eq_true.mp hranges r (hk hr)
    simp only [Bool.and_eq_true, decide_eq_true_eq] at hbounds
    omega
  have hbounds : 0x20 ≤ c.toNat ∧ c.toNat < 0xFFFE := by
    rw [isNameChar] at h
    split at h
    · refine ⟨Nat.le_of_not_lt fun hlt => ?_, by omega⟩
      have hcontrol : ∀ n < 0x20, isNameChar (Char.ofNat n) = false := by decide
      have hc := hcontrol c.toNat hlt
      rw [Char.ofNat_toNat, isNameChar, if_pos (by assumption), h] at hc
      cases hc
    · rcases Bool.or_eq_true_iff.mp h with h | h
      · exact hclass (List.subset_append_left ..) h
      · exact hclass (List.subset_append_right ..) h
  rw [isAllowed]
  simp only [Bool.or_eq_true, Bool.and_eq_true, decide_eq_true_eq, bne_iff_ne]
  omega

/-! ### Trees -/

/-- XML allows all characters of a text. -/
def IsAllowedText (s : String) : Prop := ∀ c ∈ s.toList, isAllowed c = true

instance (s : String) : Decidable (IsAllowedText s) :=
  decidable_of_iff (s.toList.all isAllowed = true) List.all_eq_true

/-- Attributes whose names and values are texts. -/
def textAttributes (attributes : List (String × String)) : List (Value × Value) :=
  attributes.map fun p => (.str p.1, .str p.2)

/-- Attributes that can be written: their names are different and have no colon. -/
structure PlainAttributes (attributes : List (String × String)) : Prop where
  names : ∀ p ∈ attributes, IsName p.1
  distinct : (attributes.map Prod.fst).Nodup
  allowed : ∀ p ∈ attributes, IsAllowedText p.2

/-- A tree of texts in which no name needs a prefix and no attribute declares a namespace, unless
it is one of the root and that `mayDeclare`. -/
inductive Plain : Bool → Element → Prop
  | node {mayDeclare : Bool} {tag : String} {attributes : List (String × String)} {text : String}
      {children : List Element} (name : IsName tag) (plain : PlainAttributes attributes)
      (undeclared : mayDeclare = false → "xmlns" ∉ attributes.map Prod.fst)
      (allowed : IsAllowedText text) (inner : ∀ e ∈ children, Plain false e) :
      Plain mayDeclare (.node (.str tag) (textAttributes attributes) text children)

mutual

/-- A tree with other names of elements and other texts in them. -/
def Element.map (name : Value → Value) (content : String → String) : Element → Element
  | .node t a s c => .node (name t) a (content s) (Element.mapAll name content c)

/-- A sequence of trees with other names of elements and other texts in them. -/
def Element.mapAll (name : Value → Value) (content : String → String) :
    List Element → List Element
  | [] => []
  | e :: rest => e.map name content :: Element.mapAll name content rest

end

theorem Element.mapAll_eq (name : Value → Value) (content : String → String) (es : List Element) :
    Element.mapAll name content es = es.map fun e => e.map name content := by
  induction es with
  | nil => rfl
  | cons e rest ih => rw [Element.mapAll, ih, List.map_cons]

mutual

theorem Element.map_map (name name' : Value → Value) (content content' : String → String) :
    ∀ e : Element, (e.map name content).map name' content' =
      e.map (name' ∘ name) (content' ∘ content)
  | .node t a s c => by
    rw [Element.map, Element.map, Element.map, mapAll_mapAll name name' content content' c]
    rfl

theorem Element.mapAll_mapAll (name name' : Value → Value) (content content' : String → String) :
    ∀ es : List Element, Element.mapAll name' content' (Element.mapAll name content es) =
      Element.mapAll (name' ∘ name) (content' ∘ content) es
  | [] => rfl
  | e :: rest => by
    rw [Element.mapAll, Element.mapAll, Element.mapAll, map_map name name' content content' e,
      mapAll_mapAll name name' content content' rest]

end

/-! ### Their texts -/

/-- Attributes as they are written. -/
def attributesText (attributes : List (String × String)) : List Char :=
  attributes.flatMap fun p => attributeChars p.1 (p.2.toList.flatMap escapeAttribute)

/-- The rest of an element after its attributes, given what is written inside. -/
def insideText (tag : String) (inner : List Char) : List Char :=
  if inner.isEmpty then [' ', '/', '>'] else '>' :: (inner ++ '<' :: '/' :: (tag.toList ++ ['>']))

/-- An element as it is written, given what is written inside. -/
def elementText (tag : String) (attributes : List (String × String)) (inner : List Char) :
    List Char :=
  '<' :: (tag.toList ++ (attributesText attributes ++ insideText tag inner))

mutual

/-- The text of a tree whose names need no prefixes. -/
def Element.written : Element → List Char
  | .node t a s c =>
    elementText t.text (a.map fun p => (p.1.text, p.2.text))
      (s.toList.flatMap escapeText ++ Element.writtenAll c)

/-- The texts of a sequence of trees. -/
def Element.writtenAll : List Element → List Char
  | [] => []
  | e :: rest => e.written ++ Element.writtenAll rest

end

theorem Element.writtenAll_eq (es : List Element) :
    Element.writtenAll es = es.flatMap Element.written := by
  induction es with
  | nil => rfl
  | cons e rest ih => rw [Element.writtenAll, ih, List.flatMap_cons]

theorem text_textAttributes (attributes : List (String × String)) :
    ((textAttributes attributes).map fun p => (p.1.text, p.2.text)) = attributes := by
  rw [textAttributes, List.map_map]
  exact List.map_id _

/-! ### Writing -/

/-- No name has been given a prefix. -/
structure Naming.IsPlain (n : Naming) : Prop where
  declared : n.declared = []
  written : ∀ p ∈ n.written, p.2 = p.1

theorem splitName_of_isName {s : String} (h : IsName s) : splitName s = .ok none := by
  obtain ⟨c, rest, hs, hc, -⟩ := h
  rw [splitName, hs]
  split
  · rename_i heq
    rw [(List.cons.inj heq).1] at hc
    cases hc
  · rfl

theorem Naming.IsPlain.exists_addAll {n : Naming} (hn : n.IsPlain) {names : List Value}
    (h : ∀ v ∈ names, ∃ s, v = .str s ∧ IsName s) :
    ∃ n', n.addAll names = .ok n' ∧ n'.IsPlain := by
  induction names generalizing n with
  | nil => exact ⟨n, rfl, hn⟩
  | cons v rest ih =>
    rw [List.forall_mem_cons] at h
    obtain ⟨⟨s, rfl, hs⟩, hrest⟩ := h
    obtain ⟨n', hadd, hn'⟩ : ∃ n', n.add (.str s) = .ok n' ∧ n'.IsPlain := by
      rw [add, addText]
      split
      · exact ⟨n, rfl, hn⟩
      · rw [splitName_of_isName hs]
        refine ⟨_, rfl, hn.declared, fun p hp => ?_⟩
        rcases List.mem_append.mp hp with hp | hp
        · exact hn.written p hp
        · rw [List.mem_singleton.mp hp]
    obtain ⟨n'', haddAll, hn''⟩ := ih hn' hrest
    refine ⟨n'', ?_, hn''⟩
    rw [addAll, List.foldlM_cons, hadd]
    exact haddAll

theorem Naming.IsPlain.render {n : Naming} (hn : n.IsPlain) (s : String) :
    n.render (.str s) = s := by
  rw [Naming.render]
  show (n.written.lookup s).getD s = s
  cases h : n.written.lookup s with
  | none => rfl
  | some t => exact hn.written _ (Entries.mem_of_lookup h)

theorem Plain.namesOf {mayDeclare : Bool} {e : Element} (he : Plain mayDeclare e) :
    ∀ v ∈ namesOf e, ∃ s, v = .str s ∧ IsName s := by
  induction he with
  | @node _ tag attributes text children name plain _ _ _ ih =>
    have hall : ∀ v ∈ namesOfAll children, ∃ s, v = .str s ∧ IsName s := by
      clear * - ih
      induction children with
      | nil => exact fun v hv => absurd hv List.not_mem_nil
      | cons e rest ihr =>
        rw [List.forall_mem_cons] at ih
        rw [namesOfAll]
        exact List.forall_mem_append.mpr ⟨ih.1, ihr ih.2⟩
    rw [Xml.namesOf, List.cons_append]
    refine List.forall_mem_cons.mpr ⟨⟨tag, rfl, name⟩, List.forall_mem_append.mpr ⟨?_, hall⟩⟩
    intro v hv
    rw [textAttributes, List.map_map] at hv
    obtain ⟨p, hp, rfl⟩ := List.mem_map.mp hv
    exact ⟨p.1, rfl, plain.names p hp⟩

theorem attributesChars_eq {n : Naming} (hn : n.IsPlain) (attributes : List (String × String)) :
    attributesChars n (textAttributes attributes) = .ok (attributesText attributes) := by
  induction attributes with
  | nil => rfl
  | cons p rest ih =>
    rw [textAttributes] at ih
    rw [textAttributes, List.map_cons, attributesChars, ih, hn.render]
    rfl

theorem escapeText_ne_nil (c : Char) : escapeText c ≠ [] := by
  rw [escapeText]
  split
  · decide
  · split
    · decide
    · split
      · decide
      · exact List.cons_ne_nil _ _

theorem Element.written_ne_nil (e : Element) : e.written ≠ [] := by
  cases e
  exact List.cons_ne_nil _ _

/-- Only an element with neither a text nor children is written as an empty one. -/
theorem inner_isEmpty (text : List Char) (children : List Element) :
    (text.flatMap escapeText ++ Element.writtenAll children).isEmpty =
      (text.isEmpty && children.isEmpty) := by
  cases text with
  | cons c rest =>
    refine List.isEmpty_eq_false_iff.mpr fun h => escapeText_ne_nil c ?_
    rw [List.flatMap_cons, List.append_assoc] at h
    exact (List.append_eq_nil_iff.mp h).1
  | nil =>
    cases children with
    | nil => rfl
    | cons e rest =>
      refine List.isEmpty_eq_false_iff.mpr fun h => e.written_ne_nil ?_
      rw [Element.writtenAll, List.flatMap_nil, List.nil_append] at h
      exact (List.append_eq_nil_iff.mp h).1

/-- A plain tree is written as its text. -/
theorem elementChars_eq {n : Naming} (hn : n.IsPlain) {mayDeclare : Bool} {e : Element}
    (he : Plain mayDeclare e) : elementChars n [] e = .ok e.written := by
  induction he with
  | @node _ tag attributes text children name plain _ _ _ ih =>
    have hall : elementsChars n children = .ok (Element.writtenAll children) := by
      clear * - ih
      induction children with
      | nil => rfl
      | cons e rest ihr =>
        rw [List.forall_mem_cons] at ih
        rw [elementsChars, ih.1, ihr ih.2]
        rfl
    rw [elementChars, attributesChars_eq hn, hall, Element.written, text_textAttributes, hn.render,
      elementText, insideText, inner_isEmpty]
    dsimp only [bind, Except.bind, pure, Except.pure, Value.text]
    cases htext : text.toList with
    | cons c cs =>
      simp only [List.isEmpty_cons, Bool.false_and, Bool.false_eq_true, if_false, List.append_assoc,
        List.cons_append, List.nil_append]
    | nil =>
      cases children with
      | nil =>
        simp only [List.isEmpty_nil, Bool.and_self, if_true, List.append_assoc, List.cons_append,
          List.nil_append]
      | cons e rest =>
        simp only [List.isEmpty_nil, List.isEmpty_cons, Bool.and_false, Bool.false_eq_true,
          if_false, List.flatMap_nil, List.append_assoc, List.cons_append, List.nil_append]

/-- Writing a plain tree gives its text. -/
theorem render_eq {mayDeclare : Bool} {e : Element} (he : Plain mayDeclare e) :
    render e = .ok (String.ofList e.written) := by
  obtain ⟨n, hadd, hn⟩ := Naming.IsPlain.exists_addAll (n := {}) ⟨rfl, by simp⟩ he.namesOf
  have hchars : elementChars n (declarationChars n.declared) e = .ok e.written := by
    rw [hn.declared]
    exact elementChars_eq hn he
  rw [render, hadd]
  dsimp only [bind, Except.bind]
  rw [hchars]
  rfl

/-! ### Characters and references -/

/-- The references that are written in place of characters, after their ampersands. -/
def references : List (Char × List Char) :=
  [('&', ['a', 'm', 'p', ';']), ('<', ['l', 't', ';']), ('>', ['g', 't', ';']),
    ('"', ['q', 'u', 'o', 't', ';']), ('\r', ['#', '1', '3', ';']), ('\n', ['#', '1', '0', ';']),
    ('\t', ['#', '0', '9', ';'])]

/-- What is written in place of a character is read as the character. -/
theorem reference?_of_mem {c : Char} {body : List Char} (h : (c, body) ∈ references)
    (rest : List Char) : reference? (body ++ rest) = some (.char c, rest) := by
  simp only [references, List.mem_cons, List.not_mem_nil, or_false, Prod.mk.injEq] at h
  rcases h with ⟨rfl, rfl⟩ | ⟨rfl, rfl⟩ | ⟨rfl, rfl⟩ | ⟨rfl, rfl⟩ | ⟨rfl, rfl⟩ | ⟨rfl, rfl⟩ |
    ⟨rfl, rfl⟩
  all_goals rfl

theorem visible_of_reference :
    ∀ p ∈ references, ∀ d ∈ '&' :: p.2, Text.IsVisibleChar d ∧ d ≠ '"' := by
  have hall : (references.all fun p => ('&' :: p.2).all fun d =>
      0x21 ≤ d.toNat && d.toNat ≤ 0x7E && d != '"') = true := rfl
  intro p hp d hd
  have hvisible := List.all_eq_true.mp (List.all_eq_true.mp hall p hp) d hd
  simp only [Bool.and_eq_true, decide_eq_true_eq, bne_iff_ne] at hvisible
  exact hvisible

theorem escapeText_cases (c : Char) :
    (∃ body, (c, body) ∈ references ∧ escapeText c = '&' :: body) ∨
      c ∉ ['&', '<', '>'] ∧ escapeText c = [c] := by
  by_cases h : c ∈ ['&', '<', '>']
  · have hspecial : (['&', '<', '>'].all fun c => references.any fun p =>
        p.1 == c && escapeText c == '&' :: p.2) = true := rfl
    obtain ⟨p, hp, heq⟩ := List.any_eq_true.mp (List.all_eq_true.mp hspecial c h)
    rw [Bool.and_eq_true, beq_iff_eq, beq_iff_eq] at heq
    exact .inl ⟨p.2, heq.1 ▸ hp, heq.2⟩
  · refine .inr ⟨h, ?_⟩
    simp only [List.mem_cons, List.not_mem_nil, or_false, not_or] at h
    simp [escapeText, h]

theorem escapeAttribute_cases (c : Char) :
    (∃ body, (c, body) ∈ references ∧ escapeAttribute c = '&' :: body) ∨
      c ∉ references.map Prod.fst ∧ escapeAttribute c = [c] := by
  by_cases h : c ∈ references.map Prod.fst
  · have hspecial : ∀ p ∈ references, escapeAttribute p.1 = '&' :: p.2 := by
      decide
    obtain ⟨p, hp, rfl⟩ := List.mem_map.mp h
    exact .inl ⟨p.2, hp, hspecial p hp⟩
  · refine .inr ⟨h, ?_⟩
    simp only [references, List.map_cons, List.map_nil, List.mem_cons, List.not_mem_nil, or_false,
      not_or] at h
    simp [escapeAttribute, escapeText, h]

theorem isAllowed_of_visible {c : Char} (h : Text.IsVisibleChar c) : isAllowed c = true := by
  obtain ⟨hlow, hhigh⟩ := h
  rw [isAllowed]
  simp only [Bool.or_eq_true, Bool.and_eq_true, decide_eq_true_eq, bne_iff_ne]
  omega

theorem isAllowed_escapeText {c : Char} (h : isAllowed c = true) :
    ∀ d ∈ escapeText c, isAllowed d = true := by
  rcases escapeText_cases c with ⟨body, hbody, heq⟩ | ⟨-, heq⟩
  · rw [heq]
    exact fun d hd => isAllowed_of_visible (visible_of_reference _ hbody d hd).1
  · rw [heq]
    exact List.forall_mem_singleton.mpr h

/-- An attribute value ends at the first quote, and its line ends are spelled out. -/
theorem escapeAttribute_spec {c : Char} (h : isAllowed c = true) :
    ∀ d ∈ escapeAttribute c, isAllowed d = true ∧ d ≠ '\r' ∧ d ≠ '"' := by
  rcases escapeAttribute_cases c with ⟨body, hbody, heq⟩ | ⟨hc, heq⟩
  · rw [heq]
    intro d hd
    obtain ⟨hvisible, hquote⟩ := visible_of_reference _ hbody d hd
    refine ⟨isAllowed_of_visible hvisible, ?_, hquote⟩
    rintro rfl
    exact absurd hvisible (by decide)
  · rw [heq]
    refine List.forall_mem_singleton.mpr ⟨h, ?_, ?_⟩
    · rintro rfl
      exact hc (by decide)
    · rintro rfl
      exact hc (by decide)

/-! ### Line ends -/

theorem unifyLineEnds_cons {c : Char} (h : c ≠ '\r') (rest : List Char) :
    unifyLineEnds (c :: rest) = c :: unifyLineEnds rest := by
  rw [unifyLineEnds]
  · rintro _ rfl
    exact absurd rfl h
  · rintro rfl
    exact absurd rfl h

theorem unifyLineEnds_cr {rest : List Char} (h : rest.head? ≠ some '\n') :
    unifyLineEnds ('\r' :: rest) = '\n' :: unifyLineEnds rest := by
  rw [unifyLineEnds]
  rintro more rfl
  exact h rfl

/-- Text without carriage returns is left as it is. -/
theorem unifyLineEnds_append {cs : List Char} (h : '\r' ∉ cs) (rest : List Char) :
    unifyLineEnds (cs ++ rest) = cs ++ unifyLineEnds rest := by
  induction cs with
  | nil => rfl
  | cons c more ih =>
    rw [List.mem_cons, not_or] at h
    rw [List.cons_append, unifyLineEnds_cons (Ne.symm h.1), ih h.2, List.cons_append]

theorem head?_escaped {text rest : List Char} (htext : text.head? ≠ some '\n')
    (hrest : rest.head? ≠ some '\n') : (text.flatMap escapeText ++ rest).head? ≠ some '\n' := by
  cases text with
  | nil => exact hrest
  | cons c more =>
    rw [List.flatMap_cons]
    rcases escapeText_cases c with ⟨body, -, heq⟩ | ⟨-, heq⟩
    · rw [heq]
      simp
    · rw [heq]
      exact htext

theorem isEmpty_unifyLineEnds (cs : List Char) : (unifyLineEnds cs).isEmpty = cs.isEmpty := by
  fun_cases unifyLineEnds cs
  all_goals rfl

/-- Line ends may as well become line feeds before a text is escaped. -/
theorem unifyLineEnds_escaped (text : List Char) {rest : List Char} (h : rest.head? ≠ some '\n') :
    unifyLineEnds (text.flatMap escapeText ++ rest) =
      (unifyLineEnds text).flatMap escapeText ++ unifyLineEnds rest := by
  have hcr : escapeText '\r' = ['\r'] := by decide
  have hlf : escapeText '\n' = ['\n'] := by decide
  induction text using unifyLineEnds.induct with
  | case1 more ih =>
    rw [List.flatMap_cons, List.flatMap_cons, hcr, hlf, unifyLineEnds, List.flatMap_cons, hlf]
    simp only [List.cons_append, List.nil_append]
    rw [unifyLineEnds, ih]
  | case2 more hmore ih =>
    have hhead : more.head? ≠ some '\n' := by
      cases more with
      | nil => simp
      | cons c rest =>
        intro heq
        obtain rfl : c = '\n' := Option.some.inj heq
        exact hmore rest rfl
    rw [unifyLineEnds_cr hhead, List.flatMap_cons, List.flatMap_cons, hcr, hlf]
    simp only [List.cons_append, List.nil_append]
    rw [unifyLineEnds_cr (head?_escaped hhead h), ih]
  | case3 c more _ hc ih =>
    have hmem : '\r' ∉ escapeText c := by
      rcases escapeText_cases c with ⟨body, hbody, heq⟩ | ⟨-, heq⟩
      · rw [heq]
        exact fun hmem => absurd (visible_of_reference _ hbody _ hmem).1 (by decide)
      · rw [heq]
        exact fun hmem => hc (List.mem_singleton.mp hmem).symm
    rw [unifyLineEnds_cons hc, List.flatMap_cons, List.flatMap_cons, List.append_assoc,
      unifyLineEnds_append hmem, ih, List.append_assoc]
  | case4 => rfl

theorem mem_unifyLineEnds {c : Char} {cs : List Char} (h : c ∈ unifyLineEnds cs) :
    c ∈ cs ∨ c = '\n' := by
  induction cs using unifyLineEnds.induct with
  | case1 rest ih =>
    rw [unifyLineEnds, List.mem_cons] at h
    rcases h with rfl | h
    · exact .inr rfl
    · exact (ih h).imp (fun h => List.mem_cons_of_mem _ (List.mem_cons_of_mem _ h)) id
  | case2 rest hrest ih =>
    rw [unifyLineEnds, List.mem_cons] at h
    · rcases h with rfl | h
      · exact .inr rfl
      · exact (ih h).imp (List.mem_cons_of_mem _) id
    · exact hrest
  | case3 d rest _ hd ih =>
    rw [unifyLineEnds_cons hd, List.mem_cons] at h
    rcases h with rfl | h
    · exact .inl (List.mem_cons_self ..)
    · exact (ih h).imp (List.mem_cons_of_mem _) id
  | case4 => exact .inl h

/-! ### Whole texts -/

/-- A text with the line ends that a reader makes of its own. -/
def unified (s : String) : String := String.ofList (unifyLineEnds s.toList)

theorem IsAllowedText.unify {s : String} (h : IsAllowedText s) : IsAllowedText (unified s) := by
  intro c hc
  rw [unified, String.toList_ofList] at hc
  rcases mem_unifyLineEnds hc with hc | rfl
  · exact h c hc
  · rfl

/-- A tree stays plain when its line ends become line feeds. -/
theorem Plain.unify {mayDeclare : Bool} {e : Element} (he : Plain mayDeclare e) :
    Plain mayDeclare (e.map id unified) := by
  induction he with
  | node name plain undeclared allowed _ ih =>
    refine .node name plain undeclared allowed.unify fun e he => ?_
    rw [Element.mapAll_eq] at he
    obtain ⟨e, hmem, rfl⟩ := List.mem_map.mp he
    exact ih e hmem

theorem attributesText_spec {attributes : List (String × String)} (h : PlainAttributes attributes) :
    ∀ c ∈ attributesText attributes, isAllowed c = true ∧ c ≠ '\r' := by
  intro c hc
  obtain ⟨p, hp, hc⟩ := List.mem_flatMap.mp hc
  rw [attributeChars] at hc
  simp only [List.cons_append, List.mem_cons, List.mem_append, List.not_mem_nil, or_false,
    or_assoc] at hc
  rcases hc with rfl | hc | rfl | rfl | hc | rfl
  · decide
  · have hname := (h.names p hp).all c hc
    exact ⟨isAllowed_of_isNameChar hname, ne_of_isNameChar hname rfl⟩
  · decide
  · decide
  · obtain ⟨d, hd, hc⟩ := List.mem_flatMap.mp hc
    obtain ⟨hallowed, hcr, -⟩ := escapeAttribute_spec (h.allowed p hp d hd) c hc
    exact ⟨hallowed, hcr⟩
  · decide

section Element

variable {tag : String} {attributes : List (String × String)} (name : IsName tag)
  (plain : PlainAttributes attributes)

include name plain

theorem isAllowed_elementText {inner : List Char} (h : ∀ c ∈ inner, isAllowed c = true) :
    ∀ c ∈ elementText tag attributes inner, isAllowed c = true := by
  have htag : ∀ c ∈ tag.toList, isAllowed c = true :=
    fun c hc => isAllowed_of_isNameChar (name.all c hc)
  have hinside : ∀ c ∈ insideText tag inner, isAllowed c = true := by
    rw [insideText]
    split
    · simp [isAllowed]
    · simp only [List.forall_mem_cons, List.forall_mem_append]
      exact ⟨rfl, h, rfl, rfl, htag, rfl, List.forall_mem_nil _⟩
  rw [elementText]
  simp only [List.forall_mem_cons, List.forall_mem_append]
  exact ⟨rfl, htag, fun c hc => (attributesText_spec plain c hc).1, hinside⟩

/-- The markup of an element has no line ends, so what is left is what is inside. -/
theorem unifyLineEnds_elementText {inner inner' : List Char} (empty : inner.isEmpty = inner'.isEmpty)
    (h : ∀ rest, rest.head? ≠ some '\n' →
      unifyLineEnds (inner ++ rest) = inner' ++ unifyLineEnds rest) (rest : List Char) :
    unifyLineEnds (elementText tag attributes inner ++ rest) =
      elementText tag attributes inner' ++ unifyLineEnds rest := by
  have htag : '\r' ∉ tag.toList := name.not_mem rfl
  have hattributes : '\r' ∉ attributesText attributes :=
    fun hc => (attributesText_spec plain _ hc).2 rfl
  have hinside : unifyLineEnds (insideText tag inner ++ rest) =
      insideText tag inner' ++ unifyLineEnds rest := by
    rw [insideText, insideText, empty]
    split
    · exact unifyLineEnds_append (by decide) rest
    · simp only [List.cons_append, List.append_assoc, List.nil_append]
      rw [unifyLineEnds_cons (by decide), h _ (by simp), unifyLineEnds_cons (by decide),
        unifyLineEnds_cons (by decide), unifyLineEnds_append htag, unifyLineEnds_cons (by decide)]
  rw [elementText, elementText]
  simp only [List.cons_append, List.append_assoc]
  rw [unifyLineEnds_cons (by decide), unifyLineEnds_append htag, unifyLineEnds_append hattributes,
    hinside]

end Element

/-- XML allows the text of a plain tree. -/
theorem Plain.isAllowed_written {mayDeclare : Bool} {e : Element} (he : Plain mayDeclare e) :
    ∀ c ∈ e.written, isAllowed c = true := by
  induction he with
  | @node _ tag attributes text children name plain _ allowed _ ih =>
    rw [Element.written, text_textAttributes]
    refine isAllowed_elementText name plain (List.forall_mem_append.mpr ⟨fun c hc => ?_, ?_⟩)
    · obtain ⟨d, hd, hc⟩ := List.mem_flatMap.mp hc
      exact isAllowed_escapeText (allowed d hd) c hc
    · rw [Element.writtenAll_eq]
      intro c hc
      obtain ⟨e, he, hc⟩ := List.mem_flatMap.mp hc
      exact ih e he c hc

theorem head?_writtenAll (children : List Element) {rest : List Char}
    (h : rest.head? ≠ some '\n') : (Element.writtenAll children ++ rest).head? ≠ some '\n' := by
  cases children with
  | nil => exact h
  | cons e more =>
    cases e
    rw [Element.writtenAll, Element.written, elementText]
    simp

/-- The text of a plain tree whose line ends are line feeds is that of a tree whose texts are. -/
theorem Plain.unifyLineEnds_written {mayDeclare : Bool} {e : Element} (he : Plain mayDeclare e) :
    ∀ rest, unifyLineEnds (e.written ++ rest) =
      (e.map id unified).written ++ unifyLineEnds rest := by
  induction he with
  | @node _ tag attributes text children name plain _ allowed _ ih =>
    have hall : ∀ rest, unifyLineEnds (Element.writtenAll children ++ rest) =
        Element.writtenAll (Element.mapAll id unified children) ++ unifyLineEnds rest := by
      clear * - ih
      intro rest
      induction children with
      | nil => rfl
      | cons e more ihr =>
        rw [List.forall_mem_cons] at ih
        rw [Element.mapAll, Element.writtenAll, Element.writtenAll, List.append_assoc, ih.1,
          ihr ih.2, List.append_assoc]
    rw [Element.map, Element.written, Element.written, text_textAttributes]
    refine unifyLineEnds_elementText name plain ?_ fun rest hrest => ?_
    · rw [inner_isEmpty, inner_isEmpty, unified, String.toList_ofList, isEmpty_unifyLineEnds,
        Element.mapAll_eq, List.isEmpty_map]
    · rw [List.append_assoc, unifyLineEnds_escaped _ (head?_writtenAll children hrest), hall,
        unified, String.toList_ofList, List.append_assoc]

end ServiceWire.Xml
