import ServiceWire.Proofs.Xml.Tag

/-!
# Elements read back

What a reader makes of the text of a tree is followed from one part of the text to the next: each
part takes the reader from some open elements to others, whatever follows it, and an element as a
whole adds itself to the element around it.
-/

namespace ServiceWire.Xml

/-! ### Tags and texts -/

section Content

variable {active : List String} {expand : String → Option (List Markup)}

/-- A run of characters that stand for themselves ends before a text. -/
def EndsRun (rest : List Char) : Prop := ∀ c ∈ rest.head?, c = '<' ∨ c = '&'

theorem EndsRun.append {cs rest : List Char} (h : EndsRun cs) (hrest : EndsRun rest) :
    EndsRun (cs ++ rest) := by
  cases cs with
  | nil => exact hrest
  | cons c more => exact h

theorem content?_reference {c : Char} {body : List Char} (h : (c, body) ∈ references) (fuel : Nat)
    (rest : List Char) : content? {} active expand (fuel + 1) ('&' :: (body ++ rest)) =
      (content? {} active expand fuel rest).map (.text false [c] :: ·) := by
  rw [content?, reference?_of_mem h]
  simp only [bind, Option.bind]
  cases content? {} active expand fuel rest <;> rfl

theorem content?_run {run rest : List Char} (hne : run ≠ [])
    (hrun : ∀ c ∈ run, c ∉ ['&', '<', '>']) (hrest : EndsRun rest) (fuel : Nat) :
    content? {} active expand (fuel + 1) (run ++ rest) =
      (content? {} active expand fuel rest).map (.text true run :: ·) := by
  obtain ⟨c, more, rfl⟩ := List.exists_cons_of_ne_nil hne
  have hkeep : ∀ d ∈ c :: more, (d != '<' && d != '&') = true := by
    intro d hd
    have hd := hrun d hd
    simp only [List.mem_cons, List.not_mem_nil, or_false, not_or] at hd
    simp [hd]
  have hstop : ∀ d ∈ rest.head?, (d != '<' && d != '&') = false := by
    intro d hd
    rcases hrest d hd with rfl | rfl <;> rfl
  have htake : (c :: more ++ rest).takeWhile (fun d => d != '<' && d != '&') = c :: more := by
    rw [List.takeWhile_append_of_pos hkeep]
    cases rest with
    | nil => rw [List.takeWhile_nil, List.append_nil]
    | cons d rest => rw [List.takeWhile_cons_of_neg (by simp [hstop d rfl]), List.append_nil]
  have hdrop : (c :: more ++ rest).dropWhile (fun d => d != '<' && d != '&') = rest := by
    rw [List.dropWhile_append_of_pos hkeep]
    cases rest with
    | nil => rfl
    | cons d rest => rw [List.dropWhile_cons_of_neg (by simp [hstop d rfl])]
  have hend : Text.occursIn "]]>".toList (c :: more) = false := by
    refine Bool.eq_false_iff.mpr fun hoccurs => ?_
    have hgt : '>' ∈ c :: more := Text.subset_of_occursIn hoccurs (by decide)
    exact hrun '>' hgt (by decide)
  obtain ⟨hlt, hamp⟩ : c ≠ '<' ∧ c ≠ '&' := by simpa using hkeep c (List.mem_cons_self ..)
  rw [List.cons_append] at htake hdrop ⊢
  rw [content?]
  · simp only [htake, hdrop, hend, bind, Option.bind]
    cases content? {} active expand fuel rest <;> rfl
  · exact fun heq => hlt heq
  · exact fun heq => hamp heq

theorem content?_closing {tag : String} (name : IsName tag) (fuel : Nat) (rest : List Char) :
    content? {} active expand (fuel + 1) ('<' :: '/' :: (tag.toList ++ ['>']) ++ rest) =
      (content? {} active expand fuel rest).map (.closing ⟨none, tag⟩ :: ·) := by
  rw [List.cons_append, List.cons_append, List.append_assoc, List.singleton_append, content?,
    qname?_append name (.cons rfl (by decide) _)]
  simp only [bind, Option.bind, skipSpace_cons (rfl : isSpaceChar '>' = false)]
  cases content? {} active expand fuel rest <;> rfl

theorem content?_opening {tag : String} (name : IsName tag) {attributes : List (String × String)}
    (plain : PlainAttributes attributes) {ending rest : List Char} {isEmpty : Bool}
    (hend : EndsTag (ending ++ rest) isEmpty rest) (fuel : Nat) :
    content? {} active expand (fuel + 1)
        ('<' :: (tag.toList ++ (attributesText attributes ++ ending)) ++ rest) =
      (content? {} active expand fuel rest).map fun more =>
        .opening ⟨none, tag⟩ (qualified attributes) ::
          if isEmpty then .closing ⟨none, tag⟩ :: more else more := by
  have hopening := openingTag?_written name plain hend active
  obtain ⟨c, more, hs, hc, -⟩ := name
  have hmark : ∀ {d : Char} {cs cs' : List Char}, isNameStart d = false →
      c :: cs = d :: cs' → False := by
    intro d cs cs' hd heq
    rw [(List.cons.inj heq).1, hd] at hc
    cases hc
  rw [List.cons_append, List.append_assoc, List.append_assoc]
  rw [hs, List.cons_append] at hopening ⊢
  rw [content?]
  · simp only [hopening, bind, Option.bind]
    cases content? {} active expand fuel rest <;> rfl
  · exact fun _ => hmark rfl
  · exact fun _ => hmark rfl
  · exact fun _ => hmark rfl
  · exact fun _ => hmark rfl

end Content

/-! ### Open elements -/

/-- A text is added to that of an open element. -/
def Frame.addText (f : Frame) (cs : List Char) : Frame := { f with text := f.text ++ cs }

theorem Frame.addText_nil (f : Frame) : f.addText [] = f := by
  rw [addText, List.append_nil]

theorem Frame.addText_addText (f : Frame) (cs cs' : List Char) :
    (f.addText cs).addText cs' = f.addText (cs ++ cs') := by
  simp only [addText, List.append_assoc]

/-- The open elements of a document, innermost first, and the root, once it is closed. -/
structure Building where
  frames : List Frame
  root : Option Element

namespace Building

/-- The namespaces in scope. -/
def scope (b : Building) : Scope :=
  match b.frames with
  | f :: _ => f.scope
  | [] => .initial

/-- Another element may follow: there is no second root. -/
def Admits (b : Building) : Prop := b.frames = [] → b.root = none

/-- An element is added to the innermost one that is open, or is the root. -/
def add (b : Building) (e : Element) : Building :=
  match b.frames with
  | f :: rest => ⟨{ f with children := e :: f.children } :: rest, b.root⟩
  | [] => ⟨[], some e⟩

/-- What comes of the rest of a document without declarations. -/
def finish? (b : Building) (expand : String → Option (List Markup)) (fuel : Nat) (cs : List Char) :
    Option Element :=
  (content? {} [] expand fuel cs).bind (build? b.frames b.root)

/-- A part of a document, before a rest that `P` holds of, takes a reader from some open elements
to others. -/
def Advances (P : List Char → Prop) (cs : List Char) (b b' : Building) : Prop :=
  ∀ expand fuel rest, P rest → (cs ++ rest).length < fuel →
    ∃ fuel', rest.length < fuel' ∧ b.finish? expand fuel (cs ++ rest) = b'.finish? expand fuel' rest

theorem Advances.refl (P : List Char → Prop) (b : Building) : Advances P [] b b :=
  fun _ fuel _ _ hfuel => ⟨fuel, hfuel, rfl⟩

theorem Advances.trans {P Q : List Char → Prop} {cs cs' : List Char} {b b' b'' : Building}
    (h : Advances P cs b b') (h' : Advances Q cs' b' b'') (hP : ∀ rest, Q rest → P (cs' ++ rest)) :
    Advances Q (cs ++ cs') b b'' := by
  intro expand fuel rest hrest hfuel
  rw [List.append_assoc] at hfuel ⊢
  obtain ⟨fuel', hfuel', heq⟩ := h expand fuel (cs' ++ rest) (hP rest hrest) hfuel
  obtain ⟨fuel'', hfuel'', heq'⟩ := h' expand fuel' rest hrest hfuel'
  exact ⟨fuel'', hfuel'', heq.trans heq'⟩

/-- A part that is read as one tag or text. -/
theorem Advances.of_step {P : List Char → Prop} {cs : List Char} {b b' : Building} (hne : cs ≠ [])
    (h : ∀ expand fuel rest, P rest → ∃ markup : List Markup → List Markup,
      content? {} [] expand (fuel + 1) (cs ++ rest) =
        (content? {} [] expand fuel rest).map markup ∧
      ∀ more, build? b.frames b.root (markup more) = build? b'.frames b'.root more) :
    Advances P cs b b' := by
  intro expand fuel rest hrest hfuel
  obtain ⟨fuel, rfl⟩ := Nat.exists_eq_succ_of_ne_zero (Nat.ne_zero_of_lt hfuel)
  obtain ⟨markup, hcontent, hbuild⟩ := h expand fuel rest hrest
  have hlength : 0 < cs.length := List.length_pos_iff.mpr hne
  rw [List.length_append] at hfuel
  refine ⟨fuel, by omega, ?_⟩
  rw [finish?, finish?, hcontent]
  cases content? {} [] expand fuel rest with
  | none => rfl
  | some more => exact hbuild more

/-! ### Texts -/

variable {f : Frame} {frames : List Frame} {root : Option Element}

theorem build?_text (children : f.children = []) (literal : Bool) (cs : List Char)
    (more : List Markup) : build? (f :: frames) root (.text literal cs :: more) =
      build? (f.addText cs :: frames) root more := by
  rw [build?, if_pos (List.isEmpty_iff.mpr children)]
  rfl

theorem advances_run {run : List Char} (hrun : ∀ c ∈ run, c ∉ ['&', '<', '>'])
    (children : f.children = []) :
    Advances EndsRun run ⟨f :: frames, root⟩ ⟨f.addText run :: frames, root⟩ := by
  by_cases hne : run = []
  · rw [hne, f.addText_nil]
    exact .refl _ _
  · exact .of_step hne fun expand fuel rest hrest =>
      ⟨_, content?_run hne hrun hrest fuel, build?_text children true run⟩

theorem advances_reference {c : Char} {body : List Char} (h : (c, body) ∈ references)
    (children : f.children = []) (P : List Char → Prop) :
    Advances P ('&' :: body) ⟨f :: frames, root⟩ ⟨f.addText [c] :: frames, root⟩ :=
  .of_step (List.cons_ne_nil _ _) fun _ fuel rest _ =>
    ⟨_, content?_reference h fuel rest, build?_text children false [c]⟩

theorem endsRun_escaped {c : Char} {body : List Char} (h : escapeText c = '&' :: body)
    (more : List Char) : EndsRun ((c :: more).flatMap escapeText) := by
  rw [List.flatMap_cons, h]
  intro d hd
  exact .inr (Option.some.inj hd).symm

/-- An escaped text is added to the innermost element that is open. The characters before it that
stand for themselves are read in one run with its beginning. -/
theorem advances_text (text : List Char) {run : List Char} (hrun : ∀ c ∈ run, c ∉ ['&', '<', '>'])
    (children : f.children = []) :
    Advances EndsRun (run ++ text.flatMap escapeText) ⟨f :: frames, root⟩
      ⟨f.addText (run ++ text) :: frames, root⟩ := by
  induction text generalizing f run with
  | nil =>
    rw [List.flatMap_nil, List.append_nil]
    exact advances_run hrun children
  | cons c more ih =>
    rcases escapeText_cases c with ⟨body, hbody, heq⟩ | ⟨hc, heq⟩
    · have hmore := ih (f := (f.addText run).addText [c]) (List.forall_mem_nil _) children
      have hfinal : ((f.addText run).addText [c]).addText ([] ++ more) =
          f.addText (run ++ c :: more) := by
        rw [Frame.addText_addText, Frame.addText_addText]
        rfl
      rw [hfinal] at hmore
      refine (advances_run hrun children).trans ?_ fun rest hrest =>
        (endsRun_escaped heq more).append hrest
      rw [List.flatMap_cons, heq]
      exact (advances_reference (f := f.addText run) hbody children fun _ => True).trans hmore
        fun _ _ => trivial
    · have hmore := ih (List.forall_mem_append.mpr ⟨hrun, List.forall_mem_singleton.mpr hc⟩)
        children
      rw [List.flatMap_cons, heq, ← List.append_assoc, List.append_cons run c more]
      exact hmore

/-! ### Elements -/

/-- The opening tag of an element makes a frame of it. -/
structure Opens (b : Building) (tag : String) (attributes : List (String × String)) (f : Frame) :
    Prop where
  admits : b.Admits
  name : IsName tag
  plain : PlainAttributes attributes
  named : f.name = ⟨none, tag⟩
  enter : b.scope.enter? (qualified attributes) = some f.scope
  expanded : f.tag = expandedName ((f.scope.lookup "").getD "") tag
  keep : f.scope.attributes? (qualified attributes) = some f.attributes
  text : f.text = []
  children : f.children = []

variable {b : Building} {tag : String} {attributes : List (String × String)}

theorem Opens.build? (h : Opens b tag attributes f) (more : List Markup) :
    build? b.frames b.root (.opening ⟨none, tag⟩ (qualified attributes) :: more) =
      Xml.build? (f :: b.frames) b.root more := by
  obtain ⟨frames, root⟩ := b
  obtain ⟨name, tag', kept, text, children, inner⟩ := f
  obtain ⟨admits, -, -, rfl, enter, expanded, keep, rfl, rfl⟩ := h
  have hname : inner.elementName? ⟨none, tag⟩ = some tag' := congrArg some expanded.symm
  simp only [scope] at enter keep hname
  cases frames with
  | nil =>
    obtain rfl : root = none := admits rfl
    simp only [Xml.build?, List.isEmpty_nil, Option.isSome_none, Bool.and_false,
      Bool.false_eq_true, if_false, enter, hname, keep, bind, Option.bind]
  | cons g rest =>
    simp only [Xml.build?, List.isEmpty_cons, Bool.false_and, Bool.false_eq_true, if_false, enter,
      hname, keep, bind, Option.bind]

theorem build?_closing (b : Building) (f : Frame) (more : List Markup) :
    build? (f :: b.frames) b.root (.closing f.name :: more) =
      build? (b.add f.close).frames (b.add f.close).root more := by
  obtain ⟨frames, root⟩ := b
  cases frames <;> simp only [build?, if_true, add]

/-- The opening tag of an element that is not empty is read. -/
theorem Opens.advances (h : Opens b tag attributes f) (P : List Char → Prop) :
    Advances P ('<' :: (tag.toList ++ (attributesText attributes ++ ['>']))) b
      ⟨f :: b.frames, b.root⟩ := by
  refine .of_step (List.cons_ne_nil _ _) fun _ fuel rest _ =>
    ⟨_, content?_opening h.name h.plain (.open rest) fuel, ?_⟩
  exact h.build?

/-- An empty element is read. -/
theorem Opens.advances_empty (h : Opens b tag attributes f) (P : List Char → Prop) :
    Advances P ('<' :: (tag.toList ++ (attributesText attributes ++ [' ', '/', '>']))) b
      (b.add f.close) := by
  refine .of_step (List.cons_ne_nil _ _) fun _ fuel rest _ =>
    ⟨_, content?_opening h.name h.plain (.empty rest) fuel, fun more => ?_⟩
  rw [h.build?, if_pos rfl, ← h.named, build?_closing]

/-- The closing tag of the innermost element that is open is read. -/
theorem advances_closing (name : IsName tag) (named : f.name = ⟨none, tag⟩) (P : List Char → Prop) :
    Advances P ('<' :: '/' :: (tag.toList ++ ['>'])) ⟨f :: b.frames, b.root⟩ (b.add f.close) := by
  refine .of_step (List.cons_ne_nil _ _) fun _ fuel rest _ =>
    ⟨_, content?_closing name fuel rest, fun more => ?_⟩
  rw [← named, build?_closing]

/-- An element is read as what is read inside it. -/
theorem Opens.advances_element (h : Opens b tag attributes f) {content : List Char} {f' : Frame}
    (named : f'.name = ⟨none, tag⟩)
    (inside : Advances EndsRun content ⟨f :: b.frames, b.root⟩ ⟨f' :: b.frames, b.root⟩)
    (empty : content = [] → f' = f) (P : List Char → Prop) :
    Advances P (elementText tag attributes content) b (b.add f'.close) := by
  rw [elementText, insideText]
  by_cases hcontent : content = []
  · rw [hcontent, List.isEmpty_nil, if_pos rfl, empty hcontent]
    exact h.advances_empty P
  · rw [if_neg (by rw [List.isEmpty_iff]; exact hcontent)]
    have hopen := (h.advances fun _ => True).trans (inside.trans
      (advances_closing h.name named P) fun rest _ => ?_) fun _ _ => trivial
    · simpa only [List.cons_append, List.append_assoc, List.nil_append] using hopen
    · intro c hc
      exact .inl (Option.some.inj hc).symm

end Building

/-! ### Trees -/

/-- A name in a namespace. -/
def inNamespace (uri : String) (name : Value) : Value := .str (expandedName uri name.text)

/-- The default namespace of a scope. -/
def Scope.default (scope : Scope) : String := (scope.lookup "").getD ""

theorem declaredPrefix?_of_ne {name : String} (h : name ≠ "xmlns") :
    declaredPrefix? ⟨none, name⟩ = none := by
  rw [declaredPrefix?]
  · rintro ⟨⟩
    exact h rfl
  · rintro name' ⟨⟩

theorem Scope.enter?_undeclared (scope : Scope) {attributes : List (String × String)}
    (h : "xmlns" ∉ attributes.map Prod.fst) : scope.enter? (qualified attributes) = some scope := by
  induction attributes with
  | nil => rfl
  | cons p rest ih =>
    rw [List.map_cons, List.mem_cons, not_or] at h
    rw [enter?, qualified, List.map_cons, List.foldlM_cons, declaredPrefix?_of_ne (Ne.symm h.1)]
    exact ih h.2

/-- A step of collecting the attributes of an element: a name without a prefix is kept. -/
theorem Scope.foldlM_attributes (scope : Scope) (attributes before : List (String × String))
    (distinct : ((before ++ attributes).map Prod.fst).Nodup) :
    (qualified attributes).foldlM (fun acc p => do
      let name ← scope.attributeName? p.1
      if Entries.has acc name then none else return acc ++ [(name, p.2)]) before =
        some (before ++ attributes) := by
  induction attributes generalizing before with
  | nil => rw [List.append_nil]; rfl
  | cons p rest ih =>
    have hfresh : Entries.has before p.1 = false := by
      rw [List.map_append, List.map_cons] at distinct
      have hnone : before.lookup p.1 = none := by
        refine List.lookup_eq_none_iff.mpr fun q hq => bne_iff_ne.mpr (Ne.symm ?_)
        exact (List.nodup_append.mp distinct).2.2 _ (List.mem_map_of_mem hq) _
          (List.mem_cons_self ..)
      rw [Entries.has, hnone]
      rfl
    have hrest := ih (before ++ [p]) (by rwa [List.append_assoc])
    rw [List.append_assoc] at hrest
    rw [qualified, List.map_cons, List.foldlM_cons]
    simp only [attributeName?, hfresh, bind, Option.bind]
    exact hrest

theorem Scope.attributes?_undeclared (scope : Scope) {attributes : List (String × String)}
    (distinct : (attributes.map Prod.fst).Nodup) (h : "xmlns" ∉ attributes.map Prod.fst) :
    scope.attributes? (qualified attributes) = some attributes := by
  have hfilter : (qualified attributes).filter (fun p => (declaredPrefix? p.1).isNone) =
      qualified attributes := by
    refine List.filter_eq_self.mpr fun q hq => ?_
    obtain ⟨p, hp, rfl⟩ := List.mem_map.mp hq
    rw [declaredPrefix?_of_ne fun heq => h (heq ▸ List.mem_map_of_mem hp)]
    rfl
  rw [attributes?, hfilter]
  exact scope.foldlM_attributes attributes [] distinct

/-- An element in the making that has got its text and its children. -/
def Frame.filled (f : Frame) (text : String) (children : List Element) : Frame :=
  { f with
    text := text.toList
    children := (Element.mapAll (inNamespace f.scope.default) id children).reverse }

theorem Frame.filled_empty {f : Frame} (text : f.text = []) (children : f.children = []) :
    f.filled "" [] = f := by
  obtain ⟨name, tag, attributes, text', children', scope⟩ := f
  obtain rfl : text' = [] := text
  obtain rfl : children' = [] := children
  rfl

namespace Building

theorem endsRun_writtenAll (children : List Element) : EndsRun (Element.writtenAll children) := by
  cases children with
  | nil => exact fun c hc => by cases hc
  | cons e rest =>
    cases e
    intro c hc
    exact .inl (Option.some.inj hc).symm

/-- Elements are added to the innermost one that is open, one after the other. -/
theorem advances_children {children : List Element}
    (h : ∀ e ∈ children, ∀ {b : Building}, b.Admits → ∀ P, Advances P e.written b
      (b.add (e.map (inNamespace b.scope.default) id))) (f : Frame) (frames : List Frame)
    (root : Option Element) : Advances EndsRun (Element.writtenAll children) ⟨f :: frames, root⟩
      ⟨{ f with children := (Element.mapAll (inNamespace f.scope.default) id children).reverse ++
        f.children } :: frames, root⟩ := by
  induction children generalizing f with
  | nil => exact .refl _ _
  | cons e rest ih =>
    obtain ⟨hfirst, hmore⟩ := List.forall_mem_cons.mp h
    have hfirst := hfirst (b := ⟨f :: frames, root⟩) (fun h => by cases h) fun _ => True
    have hrest := ih hmore
      { f with children := e.map (inNamespace f.scope.default) id :: f.children }
    rw [Element.writtenAll, Element.mapAll, List.reverse_cons, List.append_assoc,
      List.singleton_append]
    exact hfirst.trans hrest fun _ _ => trivial

/-- What is written inside an element is read as its text and its children. -/
theorem advances_content (text : String) {children : List Element}
    (h : ∀ e ∈ children, ∀ {b : Building}, b.Admits → ∀ P, Advances P e.written b
      (b.add (e.map (inNamespace b.scope.default) id))) {f : Frame} (empty : f.text = [])
    (childless : f.children = []) (frames : List Frame) (root : Option Element) :
    Advances EndsRun (text.toList.flatMap escapeText ++ Element.writtenAll children)
      ⟨f :: frames, root⟩ ⟨f.filled text children :: frames, root⟩ := by
  have htext := @advances_text f frames root text.toList [] (List.forall_mem_nil _) childless
  have hchildren := advances_children h (f.addText text.toList) frames root
  simp only [List.nil_append] at htext
  have hend := htext.trans hchildren fun rest hrest =>
    (endsRun_writtenAll children).append hrest
  simp only [Frame.addText, empty, childless, List.nil_append, List.append_nil] at hend
  exact hend

theorem inner_eq_nil {text : List Char} {children : List Element}
    (h : text.flatMap escapeText ++ Element.writtenAll children = []) :
    text = [] ∧ children = [] := by
  have hempty := inner_isEmpty text children
  rw [h, List.isEmpty_nil, eq_comm, Bool.and_eq_true, List.isEmpty_iff, List.isEmpty_iff] at hempty
  exact hempty

/-- An element is read as itself, with its text and its children. -/
theorem Opens.advances_node {b : Building} {tag : String} {attributes : List (String × String)}
    {f : Frame} (h : Opens b tag attributes f) (text : String) {children : List Element}
    (hc : ∀ e ∈ children, ∀ {b : Building}, b.Admits → ∀ P, Advances P e.written b
      (b.add (e.map (inNamespace b.scope.default) id))) (P : List Char → Prop) :
    Advances P (elementText tag attributes
        (text.toList.flatMap escapeText ++ Element.writtenAll children)) b
      (b.add (.node (.str f.tag) (textAttributes f.attributes) text
        (Element.mapAll (inNamespace f.scope.default) id children))) := by
  have hcontent : Advances EndsRun (text.toList.flatMap escapeText ++ Element.writtenAll children)
      ⟨f :: b.frames, b.root⟩ ⟨f.filled text children :: b.frames, b.root⟩ :=
    advances_content text hc h.text h.children b.frames b.root
  have hempty : text.toList.flatMap escapeText ++ Element.writtenAll children = [] →
      f.filled text children = f := by
    intro hnil
    obtain ⟨htext, rfl⟩ := inner_eq_nil hnil
    rw [String.toList_eq_nil_iff.mp htext, Frame.filled_empty h.text h.children]
  have hnamed : (f.filled text children).name = ⟨none, tag⟩ := h.named
  have helement := h.advances_element hnamed hcontent hempty P
  simpa only [Frame.filled, Frame.close, String.ofList_toList, List.reverse_reverse,
    textAttributes] using helement

end Building

/-- A plain tree is read from its text, whatever stands around it. -/
theorem Plain.advances {e : Element} (he : Plain false e) {b : Building} (admits : b.Admits)
    (P : List Char → Prop) :
    b.Advances P e.written (b.add (e.map (inNamespace b.scope.default) id)) := by
  generalize hd : false = mayDeclare at he
  induction he generalizing b P with
  | @node mayDeclare tag attributes text children name plain undeclared _ _ ih =>
    have hxmlns := undeclared hd.symm
    have hopens : b.Opens tag attributes
        ⟨⟨none, tag⟩, expandedName b.scope.default tag, attributes, [], [], b.scope⟩ :=
      { admits, name, plain
        named := rfl
        enter := b.scope.enter?_undeclared hxmlns
        expanded := rfl
        keep := b.scope.attributes?_undeclared plain.distinct hxmlns
        text := rfl
        children := rfl }
    rw [Element.written, text_textAttributes]
    exact hopens.advances_node text (fun e he b hb P => ih e he hb P rfl) P

end ServiceWire.Xml
