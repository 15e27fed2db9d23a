import ServiceWire.Codegen.EndpointModule
import ServiceWire.Proofs.Number.Digits
import ServiceWire.Proofs.Text.Cut
import ServiceWire.Proofs.Text.Quoted

/-!
# Literals stand for one value only

A table is what generated modules hold as literals: mappings with text keys and sequences of texts,
integers, truth values and nothing, inside each other to any depth. A literal of a table says where
it ends and which table it stands for, except that pairs and other tuples have the literals of lists
(`Value.Determined`, `Value.IsTable.determined`). Its first character says of which kind the table
is. A line that begins with the closing bracket is the last one, however far lines are indented, and
a number is cut off by the comma or the end of the line behind it.
-/

namespace ServiceWire

namespace Value

/-! ### Tables -/

/-- A table: nothing, a truth value, an integer or a text, a sequence of tables, or a mapping from
texts to tables. -/
inductive IsTable : Value → Prop
  | null : IsTable .null
  | bool (b : Bool) : IsTable (.bool b)
  | int (i : Int) : IsTable (.int i)
  | str (s : String) : IsTable (.str s)
  | list {items : List Value} : (∀ v ∈ items, IsTable v) → IsTable (.list items)
  | tuple {items : List Value} : (∀ v ∈ items, IsTable v) → IsTable (.tuple items)
  | dict {fields : List (String × Value)} : (∀ p ∈ fields, IsTable p.2) → IsTable (.ofFields fields)

mutual

/-- A value with lists in the place of tuples. -/
def untupled : Value → Value
  | list items => list (untupledAll items)
  | tuple items => list (untupledAll items)
  | dict entries => dict (untupledEntries entries)
  | v => v

/-- Values with lists in the place of tuples. -/
def untupledAll : List Value → List Value
  | [] => []
  | v :: rest => untupled v :: untupledAll rest

/-- The entries of a mapping with lists in the place of tuples. -/
def untupledEntries : List (Value × Value) → List (Value × Value)
  | [] => []
  | (k, v) :: rest => (k, untupled v) :: untupledEntries rest

end

theorem untupledAll_eq (items : List Value) : untupledAll items = items.map untupled := by
  induction items with
  | nil => rfl
  | cons v rest ih => rw [untupledAll, ih, List.map_cons]

theorem untupled_ofFields (fields : List (String × Value)) :
    (ofFields fields).untupled = dict (fields.map fun p => (.str p.1, p.2.untupled)) := by
  rw [ofFields, untupled]
  congr 1
  induction fields with
  | nil => rfl
  | cons p rest ih => rw [List.map_cons, untupledEntries, ih, List.map_cons]

/-! ### The characters of literals -/

/-- The characters of a literal. -/
def literalChars (indent : Int) (v : Value) : List Char := (v.literal indent).toList

/-- The characters of an entry of a mapping. -/
def fieldChars (indent : Int) (p : String × Value) : List Char :=
  (Quoted.text p.1).toList ++ ':' :: ' ' :: literalChars indent p.2

/-- Lines with some contents, each behind some spaces and ended by a comma. -/
def lineChars (indent : Int) (contents : List (List Char)) : List Char :=
  contents.flatMap fun cs => (spaces indent).toList ++ (cs ++ [',', '\n'])

/-- Lines between brackets; without lines the brackets stand side by side. -/
def bracketChars (indent : Int) (opening closing : Char) (contents : List (List Char)) :
    List Char :=
  if contents = [] then [opening, closing]
  else opening :: '\n' :: (lineChars (indent + 4) contents ++ ((spaces indent).toList ++ [closing]))

theorem toList_literalItems (indent : Int) (items : List Value) :
    (literalItems indent items).toList = lineChars indent (items.map (literalChars indent)) := by
  induction items with
  | nil => rfl
  | cons v rest ih =>
    rw [literalItems, List.map_cons]
    simp [ih, lineChars, literalChars]

theorem toList_literalEntries (indent : Int) (fields : List (String × Value)) :
    (literalEntries indent (fields.map fun p => (.str p.1, p.2))).toList =
      lineChars indent (fields.map (fieldChars indent)) := by
  induction fields with
  | nil => rfl
  | cons p rest ih =>
    rw [List.map_cons, literalEntries, List.map_cons]
    simp [ih, lineChars, literalChars, fieldChars, quoted]

theorem literalChars_list (indent : Int) (items : List Value) :
    literalChars indent (.list items) =
      bracketChars indent '[' ']' (items.map (literalChars (indent + 4))) := by
  cases items with
  | nil => simp [literalChars, literal, bracketChars]
  | cons v rest =>
    have hitems := toList_literalItems (indent + 4) (v :: rest)
    rw [literalChars, literal, String.toList_append, String.toList_append, String.toList_append,
      hitems]
    · simp [bracketChars]
    · simp

theorem literalChars_tuple (indent : Int) (items : List Value) :
    literalChars indent (.tuple items) =
      bracketChars indent '[' ']' (items.map (literalChars (indent + 4))) := by
  rw [← literalChars_list]
  cases items with
  | nil => rfl
  | cons v rest => rfl

theorem literalChars_ofFields (indent : Int) (fields : List (String × Value)) :
    literalChars indent (.ofFields fields) =
      bracketChars indent '\x7b' '\x7d' (fields.map (fieldChars (indent + 4))) := by
  cases fields with
  | nil => simp [literalChars, literal, bracketChars, ofFields]
  | cons p rest =>
    have hentries := toList_literalEntries (indent + 4) (p :: rest)
    rw [List.map_cons] at hentries
    rw [literalChars, ofFields, List.map_cons, literal, String.toList_append, String.toList_append,
      String.toList_append, hentries]
    · simp [bracketChars]
    · simp

/-! ### What literals begin with -/

/-- The kinds of tables that the first character of a literal tells apart. -/
inductive TableKind
  | nothing
  | truth
  | number
  | word
  | sequence
  | mapping

/-- The kind of a table. -/
def tableKind : Value → TableKind
  | bool _ => .truth
  | int _ => .number
  | str _ => .word
  | list _ | tuple _ => .sequence
  | dict _ => .mapping
  | _ => .nothing

/-- The kind of the tables whose literals begin with a character. -/
def kindAfter (c : Char) : TableKind :=
  if c = 'N' then .nothing
  else if c = 'T' ∨ c = 'F' then .truth
  else if c = '\'' ∨ c = '"' then .word
  else if c = '[' then .sequence
  else if c = '\x7b' then .mapping
  else .number

/-- A character that a line within brackets may begin with, behind the spaces: no literal begins
with a space or a closing bracket. -/
def BeginsLine (c : Char) : Prop := c ≠ ' ' ∧ c ≠ ']' ∧ c ≠ '\x7d'

instance (c : Char) : Decidable (BeginsLine c) := inferInstanceAs (Decidable (_ ∧ _))

/-- A character of the text of an integer. -/
def isNumeral (c : Char) : Bool := c == '-' || Number.isDigit c

theorem isNumeral_of_mem_toString {i : Int} {c : Char} (h : c ∈ (toString i).toList) :
    isNumeral c = true := by
  rw [Number.toList_toString] at h
  rw [isNumeral, Bool.or_eq_true, beq_iff_eq]
  split at h
  · exact .inr (Number.isDigit_of_mem_toDigits h)
  · exact (List.mem_cons.mp h).imp_right Number.isDigit_of_mem_toDigits

theorem kindAfter_of_isNumeral {c : Char} (h : isNumeral c = true) :
    kindAfter c = .number ∧ BeginsLine c := by
  have hne : ∀ d : Char, isNumeral d = false → c ≠ d := by
    rintro d hd rfl
    rw [h] at hd
    cases hd
  constructor
  · simp [kindAfter, hne 'N' (by decide), hne 'T' (by decide), hne 'F' (by decide),
      hne '\'' (by decide), hne '"' (by decide), hne '[' (by decide), hne '\x7b' (by decide)]
  · exact ⟨hne ' ' (by decide), hne ']' (by decide), hne '\x7d' (by decide)⟩

theorem exists_toString_cons (i : Int) :
    ∃ c cs, (toString i).toList = c :: cs ∧ isNumeral c = true := by
  cases h : (toString i).toList with
  | nil =>
    rw [Number.toList_toString] at h
    split at h
    · exact absurd h Nat.toDigits_ne_nil
    · cases h
  | cons c cs => exact ⟨c, cs, rfl, isNumeral_of_mem_toString (h ▸ List.mem_cons_self ..)⟩

theorem exists_bracketChars_cons (indent : Int) (opening closing : Char)
    (contents : List (List Char)) :
    ∃ cs, bracketChars indent opening closing contents = opening :: cs := by
  rw [bracketChars]
  split
  · exact ⟨_, rfl⟩
  · exact ⟨_, rfl⟩

/-- A literal of a table begins with a character that tells its kind. -/
theorem IsTable.exists_literalChars {v : Value} (h : IsTable v) (indent : Int) :
    ∃ c cs, literalChars indent v = c :: cs ∧ kindAfter c = v.tableKind ∧ BeginsLine c := by
  cases h with
  | null => exact ⟨'N', _, by simp [literalChars, literal, quoted]; rfl, rfl, by decide⟩
  | bool b =>
    cases b with
    | true => exact ⟨'T', "rue".toList, by simp [literalChars, literal, quoted], rfl, by decide⟩
    | false => exact ⟨'F', "alse".toList, by simp [literalChars, literal, quoted], rfl, by decide⟩
  | int i =>
    obtain ⟨c, cs, hcs, hc⟩ := exists_toString_cons i
    exact ⟨c, cs, hcs, kindAfter_of_isNumeral hc⟩
  | str s =>
    obtain ⟨quote, cs, hquote, hcs⟩ := Quoted.exists_text_cons s
    refine ⟨quote, cs, hcs, ?_⟩
    rcases hquote with rfl | rfl <;> exact ⟨rfl, by decide⟩
  | @list items =>
    obtain ⟨cs, hcs⟩ := exists_bracketChars_cons indent '[' ']' (items.map (literalChars (indent + 4)))
    exact ⟨'[', cs, (literalChars_list indent items).trans hcs, rfl, by decide⟩
  | @tuple items =>
    obtain ⟨cs, hcs⟩ := exists_bracketChars_cons indent '[' ']' (items.map (literalChars (indent + 4)))
    exact ⟨'[', cs, (literalChars_tuple indent items).trans hcs, rfl, by decide⟩
  | @dict fields =>
    obtain ⟨cs, hcs⟩ :=
      exists_bracketChars_cons indent '\x7b' '\x7d' (fields.map (fieldChars (indent + 4)))
    exact ⟨'\x7b', cs, (literalChars_ofFields indent fields).trans hcs, rfl, by decide⟩

/-! ### Where literals end -/

/-- What may stand behind a literal: a comma, the end of the line or nothing. -/
def Follows (r : List Char) : Prop := ∀ c ∈ r.head?, c = ',' ∨ c = '\n'

/-- A literal of a value says where it ends and which table it stands for, whatever follows it. -/
def Determined (v : Value) : Prop :=
  ∀ (w : Value) (indent : Int) (r s : List Char), IsTable w → Follows r → Follows s →
    literalChars indent v ++ r = literalChars indent w ++ s → v.untupled = w.untupled ∧ r = s

theorem dropWhile_spaces_append (n : Int) {c : Char} (hc : c ≠ ' ') (r : List Char) :
    ((spaces n).toList ++ c :: r).dropWhile (· == ' ') = c :: r := by
  rw [spaces, String.toList_ofList, List.dropWhile_append_of_pos (by simp)]
  exact List.dropWhile_cons_of_neg (by simpa using hc)

/-- Spaces end at the first character that is none. -/
theorem eq_of_spaces_append {m n : Int} {c d : Char} {r s : List Char} (hc : c ≠ ' ') (hd : d ≠ ' ')
    (h : (spaces m).toList ++ c :: r = (spaces n).toList ++ d :: s) : c = d ∧ r = s := by
  have hrest := congrArg (List.dropWhile (· == ' ')) h
  rw [dropWhile_spaces_append m hc, dropWhile_spaces_append n hd] at hrest
  exact List.cons.inj hrest

theorem takeWhile_toString_append (i : Int) {r : List Char} (hr : Follows r) :
    ((toString i).toList ++ r).takeWhile isNumeral = (toString i).toList := by
  rw [List.takeWhile_append_of_pos fun c hc => isNumeral_of_mem_toString hc]
  cases r with
  | nil => rw [List.takeWhile_nil, List.append_nil]
  | cons c r =>
    have hc : isNumeral c = false := by
      rcases hr c rfl with rfl | rfl <;> decide
    rw [List.takeWhile_cons_of_neg (by rw [hc]; decide), List.append_nil]

/-- A text of an integer ends at the first character that belongs to none. -/
theorem eq_of_toString_append {i j : Int} {r s : List Char} (hr : Follows r) (hs : Follows s)
    (h : (toString i).toList ++ r = (toString j).toList ++ s) : i = j ∧ r = s := by
  have hnumeral := congrArg (List.takeWhile isNumeral) h
  rw [takeWhile_toString_append i hr, takeWhile_toString_append j hs] at hnumeral
  rw [hnumeral] at h
  have hread := Number.readInt?_toString i
  rw [String.toList_inj.mp hnumeral, Number.readInt?_toString j] at hread
  exact ⟨(Option.some.inj hread).symm, List.append_cancel_left h⟩

theorem lineChars_cons_append (indent : Int) (cs : List Char) (contents : List (List Char))
    (t : List Char) :
    lineChars indent (cs :: contents) ++ t =
      (spaces indent).toList ++ (cs ++ ',' :: '\n' :: (lineChars indent contents ++ t)) := by
  simp [lineChars]

theorem bracketChars_append {contents : List (List Char)} (h : contents ≠ []) (indent : Int)
    (opening closing : Char) (t : List Char) :
    bracketChars indent opening closing contents ++ t =
      opening :: '\n' :: (lineChars (indent + 4) contents ++
        ((spaces indent).toList ++ closing :: t)) := by
  rw [bracketChars, if_neg h]
  simp

section Brackets

variable {α β : Type} {contents : α → List Char} {meaning : α → β} {closing : Char}
  {xs ys : List α} {r s : List Char}

/-- A line is not the last one: behind its spaces stands no closing bracket. -/
theorem closing_ne_line {m n : Int} (hclosing : closing ≠ ' ') {cs : List Char}
    (hbegin : ∃ c rest, cs = c :: rest ∧ c ≠ ' ' ∧ c ≠ closing) (t u : List Char) :
    (spaces n).toList ++ closing :: t ≠ (spaces m).toList ++ (cs ++ u) := by
  intro heq
  obtain ⟨c, rest, rfl, hspace, hclose⟩ := hbegin
  exact hclose (eq_of_spaces_append hclosing hspace heq).1.symm

/-- Lines say where they end and what stands in them, if each of their contents does and none of
them begins with the closing bracket. -/
theorem eq_of_lineChars_append {m n : Int} (hclosing : closing ≠ ' ')
    (hbegin : ∀ x, x ∈ xs ∨ x ∈ ys → ∃ c cs, contents x = c :: cs ∧ c ≠ ' ' ∧ c ≠ closing)
    (hcontents : ∀ x ∈ xs, ∀ y ∈ ys, ∀ t u,
      contents x ++ ',' :: t = contents y ++ ',' :: u → meaning x = meaning y ∧ t = u)
    (h : lineChars m (xs.map contents) ++ ((spaces n).toList ++ closing :: r) =
      lineChars m (ys.map contents) ++ ((spaces n).toList ++ closing :: s)) :
    xs.map meaning = ys.map meaning ∧ r = s := by
  induction xs generalizing ys with
  | nil =>
    cases ys with
    | nil => exact ⟨rfl, (List.cons.inj (List.append_cancel_left h)).2⟩
    | cons y ys =>
      rw [List.map_cons, lineChars_cons_append] at h
      exact absurd h (closing_ne_line hclosing (hbegin y (.inr (List.mem_cons_self ..))) _ _)
  | cons x xs ih =>
    cases ys with
    | nil =>
      rw [List.map_cons, lineChars_cons_append] at h
      exact absurd h.symm (closing_ne_line hclosing (hbegin x (.inl (List.mem_cons_self ..))) _ _)
    | cons y ys =>
      rw [List.map_cons, List.map_cons, lineChars_cons_append, lineChars_cons_append] at h
      obtain ⟨hmeaning, hrest⟩ := hcontents x (List.mem_cons_self ..) y (List.mem_cons_self ..) _ _
        (List.append_cancel_left h)
      have hbegin' : ∀ z, z ∈ xs ∨ z ∈ ys →
          ∃ c cs, contents z = c :: cs ∧ c ≠ ' ' ∧ c ≠ closing := fun z hz =>
        hbegin z (hz.imp (List.mem_cons_of_mem _) (List.mem_cons_of_mem _))
      obtain ⟨hmeanings, hrs⟩ := ih hbegin'
        (fun z hz z' hz' => hcontents z (List.mem_cons_of_mem _ hz) z' (List.mem_cons_of_mem _ hz'))
        (List.cons.inj hrest).2
      exact ⟨by rw [List.map_cons, List.map_cons, hmeaning, hmeanings], hrs⟩

/-- Brackets say where they end and what stands in the lines between them. -/
theorem eq_of_bracketChars_append {indent : Int} {opening : Char}
    (hclosing : closing ≠ ' ' ∧ closing ≠ '\n')
    (hbegin : ∀ x, x ∈ xs ∨ x ∈ ys → ∃ c cs, contents x = c :: cs ∧ c ≠ ' ' ∧ c ≠ closing)
    (hcontents : ∀ x ∈ xs, ∀ y ∈ ys, ∀ t u,
      contents x ++ ',' :: t = contents y ++ ',' :: u → meaning x = meaning y ∧ t = u)
    (h : bracketChars indent opening closing (xs.map contents) ++ r =
      bracketChars indent opening closing (ys.map contents) ++ s) :
    xs.map meaning = ys.map meaning ∧ r = s := by
  have hlines : ∀ zs : List α, zs ≠ [] → zs.map contents ≠ [] := fun _ hzs => by simpa using hzs
  by_cases hxs : xs = []
  · by_cases hys : ys = []
    · rw [hxs, hys] at h ⊢
      exact ⟨rfl, List.append_cancel_left h⟩
    · rw [hxs, bracketChars_append (hlines ys hys)] at h
      exact absurd (List.cons.inj (List.cons.inj h).2).1 hclosing.2
  · by_cases hys : ys = []
    · rw [hys, bracketChars_append (hlines xs hxs)] at h
      exact absurd (List.cons.inj (List.cons.inj h).2).1.symm hclosing.2
    · rw [bracketChars_append (hlines xs hxs), bracketChars_append (hlines ys hys)] at h
      exact eq_of_lineChars_append hclosing.1 hbegin hcontents
        (List.cons.inj (List.cons.inj h).2).2

end Brackets

/-! ### Tables of each kind -/

theorem tableKind_eq {v w : Value} {indent : Int} {r s : List Char} (hv : IsTable v)
    (hw : IsTable w) (h : literalChars indent v ++ r = literalChars indent w ++ s) :
    v.tableKind = w.tableKind := by
  obtain ⟨c, cs, hcs, hkind, -⟩ := hv.exists_literalChars indent
  obtain ⟨d, ds, hds, hkind', -⟩ := hw.exists_literalChars indent
  rw [hcs, hds, List.cons_append, List.cons_append] at h
  rw [← hkind, ← hkind', (List.cons.inj h).1]

/-- Sequences of values whose literals say what they stand for are such values. -/
theorem untupledAll_eq_of_append {items others : List Value} {indent : Int} {r s : List Char}
    (hitems : ∀ v ∈ items, IsTable v) (hothers : ∀ w ∈ others, IsTable w)
    (hdetermined : ∀ v ∈ items, Determined v)
    (h : bracketChars indent '[' ']' (items.map (literalChars (indent + 4))) ++ r =
      bracketChars indent '[' ']' (others.map (literalChars (indent + 4))) ++ s) :
    untupledAll items = untupledAll others ∧ r = s := by
  rw [untupledAll_eq, untupledAll_eq]
  refine eq_of_bracketChars_append (by decide) ?_ ?_ h
  · intro v hv
    obtain ⟨c, cs, hcs, -, hspace, hclose, -⟩ :=
      (hv.elim (hitems v) (hothers v)).exists_literalChars (indent + 4)
    exact ⟨c, cs, hcs, hspace, hclose⟩
  · intro v hv w hw t u htu
    obtain ⟨heq, hrest⟩ := hdetermined v hv w (indent + 4) _ _ (hothers w hw) (by simp [Follows])
      (by simp [Follows]) htu
    exact ⟨heq, (List.cons.inj hrest).2⟩

theorem untupled_ofFields_eq_of_append {fields others : List (String × Value)} {indent : Int}
    {r s : List Char} (hothers : ∀ p ∈ others, IsTable p.2)
    (hdetermined : ∀ p ∈ fields, Determined p.2)
    (h : bracketChars indent '\x7b' '\x7d' (fields.map (fieldChars (indent + 4))) ++ r =
      bracketChars indent '\x7b' '\x7d' (others.map (fieldChars (indent + 4))) ++ s) :
    (ofFields fields).untupled = (ofFields others).untupled ∧ r = s := by
  have hfields : fields.map (fun p => (Value.str p.1, p.2.untupled)) =
      others.map (fun p => (Value.str p.1, p.2.untupled)) ∧ r = s := by
    refine eq_of_bracketChars_append (by decide) ?_ ?_ h
    · intro p _
      obtain ⟨quote, cs, hquote, hcs⟩ := Quoted.exists_text_cons p.1
      refine ⟨quote, _, by rw [fieldChars, hcs, List.cons_append], ?_⟩
      rcases hquote with rfl | rfl <;> decide
    · intro p hp q hq t u htu
      rw [fieldChars, fieldChars, List.append_assoc, List.append_assoc] at htu
      obtain ⟨hkey, hrest⟩ := Quoted.eq_of_text_append htu
      obtain ⟨heq, hrest⟩ := hdetermined p hp q.2 (indent + 4) _ _ (hothers q hq)
        (by simp [Follows]) (by simp [Follows]) (List.cons.inj (List.cons.inj hrest).2).2
      exact ⟨by rw [hkey, heq], (List.cons.inj hrest).2⟩
  exact ⟨by rw [untupled_ofFields, untupled_ofFields, hfields.1], hfields.2⟩

theorem determined_list {items : List Value} (hitems : ∀ v ∈ items, IsTable v)
    (hdetermined : ∀ v ∈ items, Determined v) : Determined (.list items) := by
  intro w indent r s hw _ _ h
  have hkind := tableKind_eq (.list hitems) hw h
  rw [literalChars_list] at h
  cases hw with
  | @list others hothers =>
    rw [literalChars_list] at h
    obtain ⟨heq, hrs⟩ := untupledAll_eq_of_append hitems hothers hdetermined h
    exact ⟨by rw [untupled, untupled, heq], hrs⟩
  | @tuple others hothers =>
    rw [literalChars_tuple] at h
    obtain ⟨heq, hrs⟩ := untupledAll_eq_of_append hitems hothers hdetermined h
    exact ⟨by rw [untupled, untupled, heq], hrs⟩
  | _ => cases hkind

/-- A literal of a table says where it ends and which table it stands for. -/
theorem IsTable.determined {v : Value} (hv : IsTable v) : Determined v := by
  induction hv with
  | null =>
    intro w indent r s hw _ _ h
    have hkind := tableKind_eq .null hw h
    cases hw with
    | null => exact ⟨rfl, List.append_cancel_left h⟩
    | _ => cases hkind
  | bool b =>
    intro w indent r s hw _ _ h
    have hkind := tableKind_eq (.bool b) hw h
    cases hw with
    | bool b' =>
      have hb : b = b' := by
        cases b <;> cases b' <;> simp [literalChars, literal, quoted] at h ⊢
      subst hb
      exact ⟨rfl, List.append_cancel_left h⟩
    | _ => cases hkind
  | int i =>
    intro w indent r s hw hr hs h
    have hkind := tableKind_eq (.int i) hw h
    cases hw with
    | int j =>
      obtain ⟨rfl, hrs⟩ := eq_of_toString_append hr hs h
      exact ⟨rfl, hrs⟩
    | _ => cases hkind
  | str a =>
    intro w indent r s hw _ _ h
    have hkind := tableKind_eq (.str a) hw h
    cases hw with
    | str b =>
      obtain ⟨rfl, hrs⟩ := Quoted.eq_of_text_append h
      exact ⟨rfl, hrs⟩
    | _ => cases hkind
  | list hitems ih => exact determined_list hitems ih
  | @tuple items hitems ih =>
    -- A tuple has the literal of the list of its items.
    intro w indent r s hw hr hs h
    rw [literalChars_tuple, ← literalChars_list] at h
    exact determined_list hitems ih w indent r s hw hr hs h
  | @dict fields hfields ih =>
    intro w indent r s hw _ _ h
    have hkind := tableKind_eq (.dict hfields) hw h
    cases hw with
    | @dict others hothers =>
      rw [literalChars_ofFields, literalChars_ofFields] at h
      exact untupled_ofFields_eq_of_append hothers ih h
    | _ => cases hkind

/-- Literals do not tell tuples from lists. -/
theorem IsTable.literalChars_untupled {v : Value} (hv : IsTable v) (indent : Int) :
    literalChars indent v.untupled = literalChars indent v := by
  induction hv generalizing indent with
  | null | bool | int | str => rfl
  | @list items _ ih =>
    rw [untupled, untupledAll_eq, literalChars_list, literalChars_list, List.map_map]
    exact congrArg _ (List.map_congr_left fun v hv => ih v hv _)
  | @tuple items _ ih =>
    rw [untupled, untupledAll_eq, literalChars_list, literalChars_tuple, List.map_map]
    exact congrArg _ (List.map_congr_left fun v hv => ih v hv _)
  | @dict fields _ ih =>
    have hfields : (ofFields fields).untupled =
        ofFields (fields.map fun p => (p.1, p.2.untupled)) := by
      rw [untupled_ofFields, ofFields, List.map_map]
      rfl
    rw [hfields, literalChars_ofFields, literalChars_ofFields, List.map_map]
    refine congrArg _ (List.map_congr_left fun p hp => ?_)
    rw [Function.comp_apply, fieldChars, fieldChars, ih p hp]

theorem IsTable.literal_eq_iff {v w : Value} (hv : IsTable v) (hw : IsTable w) (indent : Int) :
    v.literal indent = w.literal indent ↔ v.untupled = w.untupled := by
  constructor
  · intro h
    have hchars : literalChars indent v ++ [] = literalChars indent w ++ [] := by
      rw [literalChars, literalChars, h]
    exact (hv.determined w indent [] [] hw (by simp [Follows]) (by simp [Follows]) hchars).1
  · intro h
    have hchars := hv.literalChars_untupled indent
    rw [h, hw.literalChars_untupled indent] at hchars
    exact String.toList_inj.mp hchars.symm

end Value

/-! ### Modules -/

namespace Codegen.EndpointModule

open Value (IsTable Follows literalChars)

/-- The characters of the definition of a constant, with the empty line behind it. -/
def definitionChars (p : String × Value) : List Char :=
  p.1.toList ++ (" = ".toList ++ (literalChars 0 p.2 ++ ['\n', '\n']))

theorem flatMap_definition (p : String × Value) :
    (definition p).flatMap (fun s => s.toList ++ ['\n']) = definitionChars p := by
  simp [definition, definitionChars, literalChars]

/-- Constants with lists in the place of tuples. -/
def untupled (constants : List (String × Value)) : List (String × Value) :=
  constants.map fun p => (p.1, p.2.untupled)

/-- Definitions of constants with the same names say where they end and which tables stand in
them. -/
theorem untupled_eq_of_append {constants others : List (String × Value)} {r s : List Char}
    (hnames : constants.map Prod.fst = others.map Prod.fst)
    (hconstants : ∀ p ∈ constants, IsTable p.2) (hothers : ∀ p ∈ others, IsTable p.2)
    (h : constants.flatMap definitionChars ++ r = others.flatMap definitionChars ++ s) :
    untupled constants = untupled others ∧ r = s := by
  induction constants generalizing others with
  | nil =>
    obtain rfl := List.map_eq_nil_iff.mp hnames.symm
    exact ⟨rfl, h⟩
  | cons p rest ih =>
    cases others with
    | nil => cases hnames
    | cons q others =>
      obtain ⟨hname, hnames⟩ := List.cons.inj hnames
      simp only [List.flatMap_cons, definitionChars, hname, List.append_assoc] at h
      obtain ⟨heq, hrest⟩ := (hconstants p (List.mem_cons_self ..)).determined q.2 0 _ _
        (hothers q (List.mem_cons_self ..)) (by simp [Follows]) (by simp [Follows])
        (List.append_cancel_left (List.append_cancel_left h))
      obtain ⟨heqs, hrs⟩ := ih hnames (fun p hp => hconstants p (List.mem_cons_of_mem _ hp))
        (fun p hp => hothers p (List.mem_cons_of_mem _ hp)) (List.append_cancel_left hrest)
      refine ⟨?_, hrs⟩
      have hentry : (p.1, p.2.untupled) = (q.1, q.2.untupled) := by rw [hname, heq]
      exact congrArg₂ List.cons hentry heqs

theorem toList_lines_definitions (before : List String) {after : List String} (h : after ≠ [])
    (constants : List (String × Value)) :
    (lines (before ++ constants.flatMap definition ++ after)).toList =
      before.flatMap (fun s => s.toList ++ ['\n']) ++
        (constants.flatMap definitionChars ++ (lines after).toList) := by
  have hdefinitions : (constants.flatMap definition).flatMap (fun s => s.toList ++ ['\n']) =
      constants.flatMap definitionChars := by
    rw [List.flatMap_assoc]
    exact List.flatMap_congr fun p _ => flatMap_definition p
  have hsep : "\n".toList = ['\n'] := rfl
  rw [lines, Text.toList_join_append _ _ h, hsep, List.flatMap_append, hdefinitions,
    List.append_assoc, lines]

/-- The text of a module begins and ends in one way, whatever its constants are. -/
theorem exists_toList_moduleText (config : GeneratorConfig) (service : String) :
    ∃ before after, ∀ constants, (moduleText config service constants).toList =
      before ++ (constants.flatMap definitionChars ++ after) :=
  ⟨_, _, fun constants => toList_lines_definitions _ (List.cons_ne_nil _ _) constants⟩

theorem moduleText_eq_iff (config : GeneratorConfig) (service : String)
    {constants others : List (String × Value)}
    (hnames : constants.map Prod.fst = others.map Prod.fst)
    (hconstants : ∀ p ∈ constants, IsTable p.2) (hothers : ∀ p ∈ others, IsTable p.2) :
    moduleText config service constants = moduleText config service others ↔
      untupled constants = untupled others := by
  obtain ⟨before, after, htext⟩ := exists_toList_moduleText config service
  constructor
  · intro h
    have hchars := congrArg String.toList h
    rw [htext, htext] at hchars
    exact (untupled_eq_of_append hnames hconstants hothers (List.append_cancel_left hchars)).1
  · intro h
    -- A definition does not tell tuples from lists, so those of the tables without them count.
    have huntupled : ∀ cs : List (String × Value), (∀ p ∈ cs, IsTable p.2) →
        cs.flatMap definitionChars = (untupled cs).flatMap definitionChars := by
      intro cs hcs
      rw [untupled, List.flatMap_map]
      refine List.flatMap_congr fun p hp => ?_
      rw [definitionChars, definitionChars, (hcs p hp).literalChars_untupled]
    refine String.toList_inj.mp ?_
    rw [htext, htext, huntupled constants hconstants, h, ← huntupled others hothers]

/-- Literals of tables are equal exactly if the tables are, with the order of their entries, except
that tuples count as lists; and so are the texts of modules exactly if the tables are that they were
made of. -/
theorem literals_unambiguous {v w : Value} (hv : IsTable v) (hw : IsTable w) (indent : Int)
    (config : GeneratorConfig) (service : String) {constants others : List (String × Value)}
    (hnames : constants.map Prod.fst = others.map Prod.fst)
    (hconstants : ∀ p ∈ constants, IsTable p.2) (hothers : ∀ p ∈ others, IsTable p.2) :
    (v.literal indent = w.literal indent ↔ v.untupled = w.untupled) ∧
      (moduleText config service constants = moduleText config service others ↔
        untupled constants = untupled others) :=
  ⟨hv.literal_eq_iff hw indent, moduleText_eq_iff config service hnames hconstants hothers⟩

/-- A sequence of one text, which looks like two in its literal. -/
def oneText : Value := .list [.str "a',\n    'b"]

/-- A sequence of two texts, one of them in a tuple. -/
def twoTexts : Value := .list [.tuple [.str "a"], .str "b"]

theorem isTable_oneText : IsTable oneText := .list (by simpa using IsTable.str _)

theorem isTable_twoTexts : IsTable twoTexts := by
  refine .list fun v hv => ?_
  rcases List.mem_cons.mp hv with rfl | hv
  · exact .tuple (by simpa using IsTable.str _)
  · exact List.mem_singleton.mp hv ▸ IsTable.str _

theorem literals_unambiguous_texts :
    (IsTable oneText ∧ IsTable twoTexts ∧
      [("REGIONS", oneText)].map Prod.fst = [("REGIONS", twoTexts)].map Prod.fst) ∧
    (oneText.literal 0 = twoTexts.literal 0 ↔ oneText.untupled = twoTexts.untupled) ∧
      (moduleText {} "storage" [("REGIONS", oneText)] =
          moduleText {} "storage" [("REGIONS", twoTexts)] ↔
        untupled [("REGIONS", oneText)] = untupled [("REGIONS", twoTexts)]) :=
  ⟨⟨isTable_oneText, isTable_twoTexts, rfl⟩,
    literals_unambiguous isTable_oneText isTable_twoTexts 0 {} "storage" rfl
      (by simpa using isTable_oneText) (by simpa using isTable_twoTexts)⟩

end Codegen.EndpointModule

end ServiceWire
