import ServiceWire.Proofs.Text.Cut
import ServiceWire.Proofs.Xml.Tree

/-!
# Tags read back

The opening tag of a written element is read as the element's name and attributes. A name ends
where no character of a name follows, a value at the first quote, as its own quotes are spelled
out; so nothing has to be known of what follows the tag.
-/

namespace ServiceWire.Xml

/-! ### Names -/

theorem isSpaceChar_of_isNameChar {c : Char} (h : isNameChar c = true) : isSpaceChar c = false := by
  rw [isSpaceChar]
  simp [ne_of_isNameChar h (d := ' ') rfl, ne_of_isNameChar h (d := '\t') rfl,
    ne_of_isNameChar h (d := '\n') rfl, ne_of_isNameChar h (d := '\r') rfl]

theorem skipSpace_cons {c : Char} (h : isSpaceChar c = false) (rest : List Char) :
    skipSpace (c :: rest) = c :: rest := by
  rw [skipSpace, List.dropWhile_cons_of_neg (by rw [h]; exact Bool.false_ne_true)]

/-- No name goes on with a text. -/
def EndsName (rest : List Char) : Prop := ∀ c ∈ rest.head?, isNameChar c = false ∧ c ≠ ':'

theorem EndsName.cons {c : Char} (h : isNameChar c = false) (colon : c ≠ ':') (rest : List Char) :
    EndsName (c :: rest) := by
  intro d hd
  obtain rfl : c = d := Option.some.inj hd
  exact ⟨h, colon⟩

theorem simpleName?_append {s : String} (h : IsName s) {rest : List Char} (hrest : EndsName rest) :
    simpleName? (s.toList ++ rest) = some (s, rest) := by
  obtain ⟨c, more, hs, hc, hmore⟩ := h
  have hend : ∀ c ∈ rest.head?, ¬isNameChar c = true := by
    intro c hc
    rw [(hrest c hc).1]
    exact Bool.false_ne_true
  have htake : rest.takeWhile isNameChar = [] := by
    cases rest with
    | nil => rfl
    | cons d rest => exact List.takeWhile_cons_of_neg (hend d rfl)
  have hdrop : rest.dropWhile isNameChar = rest := by
    cases rest with
    | nil => rfl
    | cons d rest => exact List.dropWhile_cons_of_neg (hend d rfl)
  rw [hs, List.cons_append, simpleName?, if_pos hc, List.takeWhile_append_of_pos hmore,
    List.dropWhile_append_of_pos hmore, htake, hdrop, List.append_nil, ← hs, String.ofList_toList]

theorem qname?_append {s : String} (h : IsName s) {rest : List Char} (hrest : EndsName rest) :
    qname? (s.toList ++ rest) = some (⟨none, s⟩, rest) := by
  rw [qname?, simpleName?_append h hrest]
  cases rest with
  | nil => rfl
  | cons c more =>
    have hc := (hrest c rfl).2
    simp [hc]

/-! ### Values of attributes -/

/-- The value of an attribute is read as it was before it was escaped. -/
theorem attributeText?_escaped (expand : String → Option (List Char)) {value : List Char}
    {fuel : Nat} (h : (value.flatMap escapeAttribute).length < fuel) :
    attributeText? expand fuel (value.flatMap escapeAttribute) = some value := by
  induction value generalizing fuel with
  | nil =>
    obtain ⟨fuel, rfl⟩ := Nat.exists_eq_add_of_lt h
    rfl
  | cons c rest ih =>
    obtain ⟨fuel, rfl⟩ := Nat.exists_eq_succ_of_ne_zero (Nat.ne_zero_of_lt h)
    rw [List.flatMap_cons] at h ⊢
    rcases escapeAttribute_cases c with ⟨body, hbody, heq⟩ | ⟨hc, heq⟩
    · rw [heq, List.cons_append, List.length_cons, List.length_append] at h
      rw [heq, List.cons_append, attributeText?]
      simp only [reference?_of_mem hbody, ih (by omega : _ < fuel)]
      rfl
    · rw [heq, List.singleton_append, List.length_cons] at h
      rw [heq, List.singleton_append, attributeText?, ih (by omega)]
      simp only [references, List.map_cons, List.map_nil, List.mem_cons, List.not_mem_nil, or_false,
        not_or] at hc
      by_cases hspace : c = ' '
      · subst hspace
        rfl
      · simp [isSpaceChar, hc, hspace]

/-! ### Attributes -/

/-- Attributes as they are found in a tag. -/
def qualified (attributes : List (String × String)) : List (QName × String) :=
  attributes.map fun p => (⟨none, p.1⟩, p.2)

/-- An attribute is read up to the quote that ends its value. -/
theorem attributes?_step {value? : QName → List Char → Option (List Char)} {name : String}
    (hname : IsName name) {raw value : List Char} (hvalue : value? ⟨none, name⟩ raw = some value)
    (noQuote : '"' ∉ raw) {acc : List (QName × String)}
    (fresh : (acc.any fun p => p.1 == ⟨none, name⟩) = false) (fuel : Nat) (rest : List Char) :
    attributes? value? (fuel + 1) acc (attributeChars name raw ++ rest) =
      attributes? value? fuel (acc ++ [(⟨none, name⟩, String.ofList value)]) rest := by
  obtain ⟨c, more, hs, hc, hmore⟩ := id hname
  have hchars : attributeChars name raw ++ rest =
      ' ' :: (name.toList ++ ('=' :: '"' :: (raw ++ '"' :: rest))) := by
    simp [attributeChars]
  have hskip : skipSpace (attributeChars name raw ++ rest) =
      name.toList ++ ('=' :: '"' :: (raw ++ '"' :: rest)) := by
    rw [hchars, hs]
    exact skipSpace_cons (isSpaceChar_of_isNameChar (isNameChar_of_isNameStart hc)) _
  have hends : EndsName ('=' :: '"' :: (raw ++ '"' :: rest)) := .cons rfl (by decide) _
  have hlength : (name.toList ++ ('=' :: '"' :: (raw ++ '"' :: rest))).length ≠
      (attributeChars name raw ++ rest).length := by
    rw [hchars, List.length_cons]
    exact Nat.ne_of_lt (Nat.lt_succ_self _)
  rw [attributes?]
  split
  · rename_i heq
    rw [hskip, hs] at heq
    rw [(List.cons.inj heq).1] at hc
    cases hc
  · rename_i heq
    rw [hskip, hs] at heq
    rw [(List.cons.inj heq).1] at hc
    cases hc
  · rw [hskip, if_neg hlength, qname?_append hname hends]
    simp only [bind, Option.bind, skipSpace_cons (rfl : isSpaceChar '=' = false),
      skipSpace_cons (rfl : isSpaceChar '"' = false), Text.cut?_append noQuote, hvalue, fresh]
    rfl

/-- The attributes of a tag are read one after the other, up to the end of the tag. -/
theorem attributes?_written {value? : QName → List Char → Option (List Char)}
    {attributes : List (String × String)} (before : List (String × String))
    (names : ∀ p ∈ attributes, IsName p.1)
    (distinct : ((before ++ attributes).map Prod.fst).Nodup)
    (values : ∀ p ∈ attributes,
      value? ⟨none, p.1⟩ (p.2.toList.flatMap escapeAttribute) = some p.2.toList)
    (noQuote : ∀ p ∈ attributes, '"' ∉ p.2.toList.flatMap escapeAttribute)
    {tail rest : List Char} {isEmpty : Bool}
    (hend : ∀ fuel acc, attributes? value? (fuel + 1) acc tail = some (acc, isEmpty, rest))
    {fuel : Nat} (hfuel : (attributesText attributes ++ tail).length < fuel) :
    attributes? value? fuel (qualified before) (attributesText attributes ++ tail) =
      some (qualified (before ++ attributes), isEmpty, rest) := by
  induction attributes generalizing before fuel with
  | nil =>
    obtain ⟨fuel, rfl⟩ := Nat.exists_eq_succ_of_ne_zero (Nat.ne_zero_of_lt hfuel)
    rw [List.append_nil]
    exact hend fuel _
  | cons p more ih =>
    obtain ⟨fuel, rfl⟩ := Nat.exists_eq_succ_of_ne_zero (Nat.ne_zero_of_lt hfuel)
    rw [List.forall_mem_cons] at names values noQuote
    have htext : attributesText (p :: more) ++ tail =
        attributeChars p.1 (p.2.toList.flatMap escapeAttribute) ++
          (attributesText more ++ tail) := by
      rw [attributesText, List.flatMap_cons, List.append_assoc]
      rfl
    have hfresh : ((qualified before).any fun q => q.1 == ⟨none, p.1⟩) = false := by
      rw [List.map_append, List.map_cons] at distinct
      rw [List.any_eq_false]
      intro q hq
      obtain ⟨r, hr, rfl⟩ := List.mem_map.mp hq
      rw [beq_iff_eq]
      intro heq
      have hne := (List.nodup_append.mp distinct).2.2 _ (List.mem_map_of_mem hr) _
        (List.mem_cons_self ..)
      exact hne (congrArg QName.local_ heq)
    have hlength : (attributesText more ++ tail).length < fuel := by
      rw [htext, List.length_append, attributeChars] at hfuel
      simp only [List.length_cons, List.cons_append] at hfuel
      omega
    have hbefore : qualified before ++ [(⟨none, p.1⟩, String.ofList p.2.toList)] =
        qualified (before ++ [p]) := by
      rw [qualified, qualified, List.map_append, String.ofList_toList]
      rfl
    rw [htext, attributes?_step names.1 values.1 noQuote.1 hfresh, hbefore,
      ih (before ++ [p]) names.2 (by rwa [List.append_assoc]) values.2 noQuote.2 hlength, List.append_assoc]
    rfl

/-! ### Opening tags -/

/-- What follows the attributes of a tag is its end. -/
structure EndsTag (tail : List Char) (isEmpty : Bool) (rest : List Char) : Prop where
  endsName : EndsName tail
  read : ∀ value? fuel acc, attributes? value? (fuel + 1) acc tail = some (acc, isEmpty, rest)

theorem EndsTag.open (rest : List Char) : EndsTag ('>' :: rest) false rest :=
  ⟨.cons rfl (by decide) _, fun _ _ _ => rfl⟩

theorem EndsTag.empty (rest : List Char) : EndsTag (' ' :: '/' :: '>' :: rest) true rest :=
  ⟨.cons rfl (by decide) _, fun _ _ _ => rfl⟩

theorem endsName_attributesText (attributes : List (String × String)) {tail : List Char}
    (h : EndsName tail) : EndsName (attributesText attributes ++ tail) := by
  cases attributes with
  | nil => exact h
  | cons p more =>
    rw [attributesText, List.flatMap_cons, List.append_assoc, attributeChars]
    exact .cons rfl (by decide) _

/-- An opening tag is read as the name and the attributes that it was written for. -/
theorem openingTag?_written {tag : String} (name : IsName tag)
    {attributes : List (String × String)} (plain : PlainAttributes attributes)
    {tail rest : List Char} {isEmpty : Bool} (hend : EndsTag tail isEmpty rest)
    (active : List String) :
    openingTag? {} active (tag.toList ++ (attributesText attributes ++ tail)) =
      some (⟨none, tag⟩, qualified attributes, isEmpty, rest) := by
  let value? : QName → List Char → Option (List Char) := fun name raw =>
    DocumentType.valueText? {} active
      (((DocumentType.rulesFor {} ⟨none, tag⟩).find? fun r => r.name = name).any (·.isWords)) raw
  have hvalues : ∀ p ∈ attributes,
      value? ⟨none, p.1⟩ (p.2.toList.flatMap escapeAttribute) = some p.2.toList := by
    intro p _
    simp only [value?]
    rw [DocumentType.valueText?, Entities.attributeText?,
      attributeText?_escaped _ (Nat.lt_succ_self _)]
    rfl
  have hquotes : ∀ p ∈ attributes, '"' ∉ p.2.toList.flatMap escapeAttribute := by
    intro p hp hmem
    obtain ⟨c, hc, hmem⟩ := List.mem_flatMap.mp hmem
    exact (escapeAttribute_spec (plain.allowed p hp c hc) _ hmem).2.2 rfl
  have hread : attributes? value? ((attributesText attributes ++ tail).length + 1) []
      (attributesText attributes ++ tail) = some (qualified attributes, isEmpty, rest) :=
    attributes?_written [] plain.names plain.distinct hvalues hquotes (hend.read value?)
      (Nat.lt_succ_self _)
  have hdefaults : withDefaults (DocumentType.rulesFor {} ⟨none, tag⟩) (qualified attributes) =
      qualified attributes := List.append_nil _
  rw [openingTag?, qname?_append name (endsName_attributesText attributes hend.endsName)]
  dsimp only [bind, Option.bind]
  rw [hread]
  dsimp only
  rw [hdefaults]
  rfl

end ServiceWire.Xml
