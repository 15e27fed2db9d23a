import ServiceWire.Proofs.Fault
import ServiceWire.Proofs.Http.PathText

/-!
# Templates expanded

The labels of a template are found from the left, each where the one before it has ended, and every
one of them is replaced by the value of its name; nothing that was put in is looked at again. A
missing value is reported for the first label that has none. A slash of the path is one of the
template or one of the value of a greedy label, so if every label fills a segment, and only the last
segment is greedy, the segments of the path are those of the template and their values are read
back from them.
-/

namespace ServiceWire.UriTemplate

variable {cs rest text : List Char} {ps : List Piece}

/-! ### The labels of a template -/

/-- A text begins with a label, in braces, that the rest of it follows. -/
def BeginsLabel (cs text rest : List Char) : Prop :=
  cs = '\x7b' :: (text ++ '\x7d' :: rest) ∧ text ≠ [] ∧ '\x7d' ∉ text

/-- The pieces of a text from the left: a label wherever one begins, else a character. -/
inductive Scanned : List Char → List Piece → Prop
  | nil : Scanned [] []
  | label {cs text rest : List Char} {ps : List Piece} :
      BeginsLabel cs text rest → Scanned rest ps → Scanned cs (.label text :: ps)
  | literal {c : Char} {rest : List Char} {ps : List Piece} :
      (∀ text after, ¬BeginsLabel (c :: rest) text after) → Scanned rest ps →
        Scanned (c :: rest) (.literal c :: ps)

theorem beginsLabel_unique {text' rest' : List Char} (h : BeginsLabel cs text rest)
    (h' : BeginsLabel cs text' rest') : text = text' ∧ rest = rest' := by
  obtain ⟨rfl, -, hend⟩ := h
  obtain ⟨heq, -, hend'⟩ := h'
  have hcut := Text.cut?_append hend rest
  rw [(List.cons.inj heq).2, Text.cut?_append hend'] at hcut
  have hpair := Option.some.inj hcut
  exact ⟨(congrArg Prod.fst hpair).symm, (congrArg Prod.snd hpair).symm⟩

theorem Scanned.unique {qs : List Piece} (h : Scanned cs ps) (h' : Scanned cs qs) : ps = qs := by
  induction h generalizing qs with
  | nil =>
    cases h' with
    | nil => rfl
    | label hbegins _ => cases hbegins.1
  | label hbegins _ ih =>
    cases h' with
    | nil => cases hbegins.1
    | label hbegins' hrest =>
      obtain ⟨rfl, rfl⟩ := beginsLabel_unique hbegins hbegins'
      rw [ih hrest]
    | literal hno _ => exact absurd hbegins (hno _ _)
  | literal hno _ ih =>
    cases h' with
    | label hbegins _ => exact absurd hbegins (hno _ _)
    | literal _ hrest => rw [ih hrest]

theorem not_beginsLabel_of_ne {c : Char} (h : c ≠ '\x7b') (text after : List Char) :
    ¬BeginsLabel (c :: rest) text after :=
  fun hbegins => h (List.cons.inj hbegins.1).1

/-- Without a closing brace there is no label. -/
theorem scanned_of_not_mem (h : '\x7d' ∉ cs) : Scanned cs (cs.map .literal) := by
  induction cs with
  | nil => exact .nil
  | cons c rest ih =>
    refine .literal (fun text after hbegins => h ?_) (ih (List.not_mem_of_not_mem_cons h))
    rw [hbegins.1]
    simp

/-- Behind an opening brace the characters that are kept wait for the closing one. -/
theorem scanned_piecesFrom (kept : Option (List Char)) (cs : List Char)
    (hkept : '\x7d' ∉ kept.getD []) :
    Scanned ((kept.elim [] fun k => '\x7b' :: k.reverse) ++ cs) (piecesFrom kept cs) := by
  fun_induction piecesFrom kept cs with
  | case1 => exact .nil
  | case2 kept =>
    have hall : '\x7d' ∉ '\x7b' :: kept.reverse := by
      simpa using hkept
    simpa using scanned_of_not_mem hall
  | case3 rest ih => exact ih List.not_mem_nil
  | case4 c rest hc ih => exact .literal (not_beginsLabel_of_ne hc) (ih List.not_mem_nil)
  | case5 kept rest hempty ih =>
    obtain rfl := List.isEmpty_iff.mp hempty
    refine .literal (fun text after hbegins => ?_)
      (.literal (not_beginsLabel_of_ne (by decide)) (ih List.not_mem_nil))
    -- The closing brace stands at once behind the opening one, so the label would be empty.
    obtain ⟨heq, hne, hend⟩ := hbegins
    cases text with
    | nil => exact hne rfl
    | cons c text =>
      rw [(List.cons.inj (List.cons.inj heq).2).1] at hend
      exact hend (List.mem_cons_self ..)
  | case6 kept rest hempty ih =>
    refine .label ⟨List.cons_append .., ?_, ?_⟩ (ih List.not_mem_nil)
    · simpa using hempty
    · simpa using hkept
  | case7 kept c rest hc ih =>
    have hmore : '\x7d' ∉ c :: kept := List.not_mem_cons_of_ne_of_not_mem (Ne.symm hc) hkept
    simpa using ih hmore

/-- The pieces of a template are its labels, found from the left, and its other characters. -/
theorem scanned_iff {template : String} : Scanned template.toList ps ↔ ps = pieces template := by
  have hscanned := scanned_piecesFrom none template.toList List.not_mem_nil
  exact ⟨fun h => h.unique hscanned, fun h => h ▸ hscanned⟩

/-! ### The values of the labels -/

/-- Texts as values of labels. -/
def textLabels (labels : List (String × String)) : List (String × Value) :=
  labels.map fun label => (label.1, .str label.2)

/-- The label keeps the slashes of its value: it ends with a plus sign. -/
def isGreedy (text : List Char) : Bool := text.getLast? == some '+'

/-- The name of a label, without the sign of a greedy one. -/
def nameOf (text : List Char) : String :=
  String.ofList (if isGreedy text then text.dropLast else text)

/-- A label is taken apart into its name and its sign. -/
theorem labelName_eq (text : List Char) :
    labelName text = (if isGreedy text then text.dropLast else text, isGreedy text) := by
  induction text using List.reverseRecOn with
  | nil => rfl
  | append_singleton init c =>
    have hlast : isGreedy (init ++ [c]) = (c == '+') := by
      rw [isGreedy, List.getLast?_concat]
      rfl
    rw [labelName, List.reverse_concat, hlast, List.dropLast_concat]
    by_cases h : c = '+'
    · subst h
      simp
    · simp [h]

/-- The names of the labels among pieces. -/
def names (ps : List Piece) : List String :=
  ps.filterMap fun
    | .literal _ => none
    | .label text => some (nameOf text)

/-- The first name that has no value. -/
def firstMissing (labels : List (String × String)) (ps : List Piece) : Option String :=
  (names ps).find? fun name => (labels.lookup name).isNone

/-- What stands for a piece: a character for itself, and for a label a text of the characters of
paths that is decoded to the value of its name. -/
inductive Replaced (labels : List (String × String)) : Piece → List Char → Prop
  | literal (c : Char) : Replaced labels (.literal c) [c]
  | label {text part : List Char} {value : String} :
      labels.lookup (nameOf text) = some value → PathText (isGreedy text) part →
        Percent.decode part = value → Replaced labels (.label text) part

/-- The slashes that the value of a greedy label brings. -/
def valueSlashes (labels : List (String × String)) : Piece → Nat
  | .literal _ => 0
  | .label text =>
    if isGreedy text then ((labels.lookup (nameOf text)).getD "").toList.count '/' else 0

/-- A path is made from pieces by replacing each of them. -/
structure MadeFrom (labels : List (String × String)) (ps : List Piece) (path : List Char) :
    Prop where
  replaced : ∃ parts, List.Forall₂ (Replaced labels) ps parts ∧ path = parts.flatten
  slashes : path.count '/' = ps.count (.literal '/') + (ps.map (valueSlashes labels)).sum

/-- A segment of a template: characters other than slashes, or one label. -/
inductive Segment (last : Bool) : List Piece → Prop
  | literals {cs : List Char} : '/' ∉ cs → Segment last (cs.map .literal)
  | label {text : List Char} : (isGreedy text = true → last = true) → Segment last [.label text]

/-- A template of segments, of which only the last may be a greedy label. -/
inductive Segmented : List Piece → Prop
  | last {segment : List Piece} : Segment true segment → Segmented segment
  | cons {segment ps : List Piece} :
      Segment false segment → Segmented ps → Segmented (segment ++ .literal '/' :: ps)

/-! ### Expanded pieces -/

section

variable {labels : List (String × String)}

theorem lookup_textLabels (labels : List (String × String)) (name : String) :
    (textLabels labels).lookup name = (labels.lookup name).map .str := by
  induction labels with
  | nil => rfl
  | cons label rest ih =>
    rw [textLabels] at ih ⊢
    rw [List.map_cons, List.lookup_cons, List.lookup_cons, ih]
    cases name == label.1 <;> rfl

/-- What stands for a piece if no value is missing. -/
def expanded (labels : List (String × String)) : Piece → List Char
  | .literal c => [c]
  | .label text => (encodeText (isGreedy text) ((labels.lookup (nameOf text)).getD "")).toList

theorem expandPiece_label (labels : List (String × Value)) (text : List Char) :
    expandPiece labels (.label text) =
      (labels.lookup (nameOf text)).elim (.error (.noKey (nameOf text)))
        (encodeLabel (isGreedy text)) := by
  rw [expandPiece, labelName_eq]
  dsimp only
  rw [← nameOf]
  cases labels.lookup (nameOf text) <;> rfl

/-- Pieces are expanded one by one until a value is missing. -/
theorem mapM_expandPiece (labels : List (String × String)) (ps : List Piece) :
    ps.mapM (expandPiece (textLabels labels)) =
      match firstMissing labels ps with
      | some name => .error (.noKey name)
      | none => .ok (ps.map fun p => String.ofList (expanded labels p)) := by
  induction ps with
  | nil => rfl
  | cons p ps ih =>
    rw [List.mapM_cons, ih]
    cases p with
    | literal c =>
      have hmissing : firstMissing labels (.literal c :: ps) = firstMissing labels ps := rfl
      rw [hmissing]
      cases firstMissing labels ps <;> rfl
    | label text =>
      have hmissing : firstMissing labels (.label text :: ps) =
          if (labels.lookup (nameOf text)).isNone then some (nameOf text)
          else firstMissing labels ps := by
        rw [firstMissing, names, List.filterMap_cons, List.find?_cons]
        cases (labels.lookup (nameOf text)).isNone <;> rfl
      have hexpanded : String.ofList (expanded labels (.label text)) =
          encodeText (isGreedy text) ((labels.lookup (nameOf text)).getD "") :=
        String.ofList_toList
      rw [hmissing, expandPiece_label, lookup_textLabels, List.map_cons, hexpanded]
      cases labels.lookup (nameOf text) with
      | none => rfl
      | some value => cases firstMissing labels ps <;> rfl

/-- A template is expanded piece by piece, unless a value is missing. -/
theorem expand_eq (template : String) (labels : List (String × String)) :
    expand template (textLabels labels) =
      match firstMissing labels (pieces template) with
      | some name => .error (.noKey name)
      | none => .ok (String.ofList ((pieces template).flatMap (expanded labels))) := by
  rw [expand, mapM_expandPiece]
  cases firstMissing labels (pieces template) with
  | some name => rfl
  | none =>
    have htext : (String.join ((pieces template).map fun p => String.ofList (expanded labels p))) =
        String.ofList ((pieces template).flatMap (expanded labels)) := by
      rw [← String.toList_inj, String.toList_join, String.toList_ofList, List.flatMap_map]
      simp only [String.toList_ofList]
    exact congrArg Except.ok htext

theorem exists_value (complete : firstMissing labels ps = none) {name : String}
    (h : name ∈ names ps) : ∃ value, labels.lookup name = some value := by
  have hvalue := List.find?_eq_none.mp complete _ h
  rw [Option.isNone_iff_eq_none] at hvalue
  exact Option.ne_none_iff_exists'.mp hvalue

theorem replaced_expanded (complete : firstMissing labels ps = none) {p : Piece} (h : p ∈ ps) :
    Replaced labels p (expanded labels p) := by
  cases p with
  | literal c => exact .literal c
  | label text =>
    have hname : nameOf text ∈ names ps := List.mem_filterMap.mpr ⟨_, h, rfl⟩
    obtain ⟨value, hvalue⟩ := exists_value complete hname
    rw [expanded, hvalue]
    exact .label hvalue (pathText_encodeText _ _) (decode_encodeText _ _)

theorem count_expanded (labels : List (String × String)) (ps : List Piece) :
    (ps.flatMap (expanded labels)).count '/' =
      ps.count (.literal '/') + (ps.map (valueSlashes labels)).sum := by
  induction ps with
  | nil => rfl
  | cons p ps ih =>
    rw [List.flatMap_cons, List.count_append, ih, List.map_cons, List.sum_cons]
    cases p with
    | literal c =>
      have hcount : (Piece.literal c :: ps).count (.literal '/') =
          ps.count (.literal '/') + [c].count '/' := by
        simp [List.count_cons]
      rw [expanded, hcount, valueSlashes]
      omega
    | label text =>
      have hcount : (Piece.label text :: ps).count (.literal '/') = ps.count (.literal '/') :=
        List.count_cons_of_ne (by simp)
      rw [expanded, count_encodeText, hcount, valueSlashes]
      omega

theorem madeFrom_expanded (complete : firstMissing labels ps = none) :
    MadeFrom labels ps (ps.flatMap (expanded labels)) where
  replaced := by
    refine ⟨ps.map (expanded labels), ?_, List.flatMap_def ..⟩
    rw [List.forall₂_map_right_iff, List.forall₂_same]
    exact fun p hp => replaced_expanded complete hp
  slashes := count_expanded labels ps

/-! ### Values read back from segments -/

theorem names_append (ps qs : List Piece) : names (ps ++ qs) = names ps ++ names qs :=
  List.filterMap_append ..

theorem not_mem_segment {segment : List Piece} (h : Segment false segment) :
    '/' ∉ segment.flatMap (expanded labels) := by
  rw [← List.count_eq_zero, count_expanded]
  cases h with
  | literals hcs => simpa [valueSlashes, Function.comp_def, List.count_eq_zero] using hcs
  | @label text hlast =>
    have hplain : isGreedy text = false := by simpa using hlast
    simp [valueSlashes, hplain]

theorem lookup_eq_of_segment {labels' : List (String × String)} {last : Bool}
    {segment : List Piece} (h : Segment last segment)
    (heq : segment.flatMap (expanded labels) = segment.flatMap (expanded labels'))
    {name : String} (hname : name ∈ names segment) :
    (labels.lookup name).getD "" = (labels'.lookup name).getD "" := by
  cases h with
  | literals => simp [names] at hname
  | label =>
    obtain rfl : name = nameOf _ := List.mem_singleton.mp hname
    simp only [List.flatMap_singleton, expanded, String.toList_inj] at heq
    exact encodeText_injective _ heq

theorem lookup_eq_of_segmented {labels' : List (String × String)} (h : Segmented ps)
    (heq : ps.flatMap (expanded labels) = ps.flatMap (expanded labels')) {name : String}
    (hname : name ∈ names ps) :
    (labels.lookup name).getD "" = (labels'.lookup name).getD "" := by
  induction h with
  | last hsegment => exact lookup_eq_of_segment hsegment heq hname
  | @cons segment ps hsegment _ ih =>
    -- Neither front has a slash, so the paths are cut at their first one into equal parts.
    have hcut (labels : List (String × String)) :
        Text.cut? '/' ((segment ++ .literal '/' :: ps).flatMap (expanded labels)) =
          some (segment.flatMap (expanded labels), ps.flatMap (expanded labels)) := by
      rw [List.flatMap_append, List.flatMap_cons, expanded, List.singleton_append]
      exact Text.cut?_append (not_mem_segment hsegment) _
    have hparts := hcut labels
    rw [heq, hcut labels'] at hparts
    have hpair := Option.some.inj hparts
    rw [names_append, List.mem_append] at hname
    rcases hname with hname | hname
    · exact lookup_eq_of_segment hsegment (congrArg Prod.fst hpair).symm hname
    · exact ih (congrArg Prod.snd hpair).symm hname

/-- Other values of the labels make another path of a template that is made of segments. -/
theorem lookup_eq_of_expand {labels' : List (String × String)} {template path : String}
    (segmented : Segmented (pieces template)) (h : expand template (textLabels labels) = .ok path)
    (h' : expand template (textLabels labels') = .ok path) {name : String}
    (hname : name ∈ names (pieces template)) : labels.lookup name = labels'.lookup name := by
  have hexpanded {labels : List (String × String)}
      (h : expand template (textLabels labels) = .ok path) :
      (∃ value, labels.lookup name = some value) ∧
        (pieces template).flatMap (expanded labels) = path.toList := by
    rw [expand_eq] at h
    cases hmissing : firstMissing labels (pieces template) with
    | some missing =>
      rw [hmissing] at h
      cases h
    | none =>
      rw [hmissing] at h
      rw [← Except.ok.inj h, String.toList_ofList]
      exact ⟨exists_value hmissing hname, rfl⟩
  obtain ⟨⟨value, hvalue⟩, hpath⟩ := hexpanded h
  obtain ⟨⟨value', hvalue'⟩, hpath'⟩ := hexpanded h'
  have hsame := lookup_eq_of_segmented segmented (hpath.trans hpath'.symm) hname
  rw [hvalue, hvalue'] at hsame ⊢
  exact congrArg some hsame

end

/-- A template is expanded exactly: its labels are found from the left, the first name without a
value is reported, and otherwise the path is made by replacing each label once. From a path that is
made of segments the values of the labels used are read back. -/
theorem expand_exact (template : String) (labels : List (String × String)) :
    (∀ ps, Scanned template.toList ps ↔ ps = pieces template) ∧
      match firstMissing labels (pieces template) with
      | some name => expand template (textLabels labels) = .error (.noKey name)
      | none => ∃ path, expand template (textLabels labels) = .ok path ∧
          MadeFrom labels (pieces template) path.toList ∧
          (Segmented (pieces template) → ∀ labels',
            expand template (textLabels labels') = .ok path →
              ∀ name ∈ names (pieces template), labels.lookup name = labels'.lookup name) := by
  refine ⟨fun _ => scanned_iff, ?_⟩
  have hexpand := expand_eq template labels
  cases hmissing : firstMissing labels (pieces template) with
  | some name =>
    rw [hmissing] at hexpand
    exact hexpand
  | none =>
    rw [hmissing] at hexpand
    refine ⟨_, hexpand, ?_, fun hsegmented labels' h' name hname =>
      lookup_eq_of_expand hsegmented hexpand h' hname⟩
    rw [String.toList_ofList]
    exact madeFrom_expanded hmissing

/-- A template of two segments, of which the last is a greedy label. -/
def sampleTemplate : String := "/\x7bid\x7d/\x7bpath+\x7d"

/-- A value that looks like a label, and one with a slash. -/
def sampleLabels : List (String × String) := [("id", "\x7bpath+\x7d"), ("path", "a/b")]

/-- What looks like a label in a value is not replaced, and both values are read back. -/
theorem expand_exact_sample :
    expand sampleTemplate (textLabels sampleLabels) = .ok "/%7Bpath%2B%7D/a/b" ∧
      Segmented (pieces sampleTemplate) ∧
      ∀ labels', expand sampleTemplate (textLabels labels') = .ok "/%7Bpath%2B%7D/a/b" →
        labels'.lookup "id" = some "\x7bpath+\x7d" ∧ labels'.lookup "path" = some "a/b" := by
  have hpieces : pieces sampleTemplate =
      [.literal '/', .label ['i', 'd'], .literal '/', .label ['p', 'a', 't', 'h', '+']] := by
    decide
  have hsegmented : Segmented (pieces sampleTemplate) := by
    have hroot : Segment false [] := @Segment.literals false [] List.not_mem_nil
    have hid : Segment false [.label ['i', 'd']] := .label (by decide)
    have hpath : Segment true [.label ['p', 'a', 't', 'h', '+']] := .label fun _ => rfl
    have hall := Segmented.cons hroot (.cons hid (.last hpath))
    rwa [hpieces]
  have hrun : expand sampleTemplate (textLabels sampleLabels) = .ok "/%7Bpath%2B%7D/a/b" := by
    decide
  have hmissing : firstMissing sampleLabels (pieces sampleTemplate) = none := by
    rw [hpieces]
    decide
  obtain ⟨-, hexact⟩ := expand_exact sampleTemplate sampleLabels
  rw [hmissing] at hexact
  obtain ⟨path, hpath, -, hback⟩ := hexact
  obtain rfl := Except.ok.inj (hrun.symm.trans hpath)
  refine ⟨hrun, hsegmented, fun labels' h' => ?_⟩
  have hnames := hback hsegmented labels' h'
  rw [hpieces] at hnames
  exact ⟨(hnames "id" (by decide)).symm, (hnames "path" (by decide)).symm⟩

end ServiceWire.UriTemplate
