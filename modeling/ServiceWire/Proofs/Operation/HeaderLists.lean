import ServiceWire.Proofs.Operation.HeaderFields
import ServiceWire.Proofs.Time.Rfc822

/-!
# Lists in header fields

A list is written to one header field, with commas between the texts of its items, and read by
cutting the field at its commas. The two fit together as long as there is an item and no text of an
item has a comma. An empty list is written as an empty text, which is read as the text of one item,
and the date of a moment has a comma after its weekday, so that a list of moments is never read.
-/

namespace ServiceWire

/-! ### Items -/

namespace Scalar

/-- The items that a header field carries beside each other: texts without commas and without
blanks around them, and of all other scalars those that a header field carries. -/
def InHeaderList : Value → Prop
  | .str s => ',' ∉ s.toList ∧ Text.strip s = s
  | v => InHeader v

theorem InHeaderList.inHeader {v : Value} (h : InHeaderList v) : InHeader v := by
  cases v with
  | str s => exact trivial
  | _ => exact h

theorem comma_not_mem_toString (i : Int) : ',' ∉ (toString i).toList := by
  intro h
  rw [Number.toList_toString] at h
  split at h
  · exact absurd (Number.isDigit_of_mem_toDigits h) (by decide)
  · rcases List.mem_cons.mp h with heq | h
    · cases heq
    · exact absurd (Number.isDigit_of_mem_toDigits h) (by decide)

/-- The text of an item that is no moment has no comma, and no blanks around it. -/
theorem plain_of_textOf {kind : ScalarKind} {v : Value} {s : String} (h : OfKind kind v)
    (exact : Exact kind) (hkind : kind ≠ .timestamp) (hv : InHeaderList v)
    (hs : textOf .rfc822 kind v = .ok s) : ',' ∉ s.toList ∧ Text.strip s = s := by
  cases h with
  | string s' =>
    obtain rfl : s' = s := Except.ok.inj hs
    exact hv
  | integer i | long i =>
    obtain rfl : toString i = s := Except.ok.inj hs
    exact ⟨comma_not_mem_toString i, strip_toString i⟩
  | float x => exact absurd rfl exact.1
  | double x => exact absurd rfl exact.2
  | boolean b =>
    obtain rfl : (if b then "true" else "false") = s := Except.ok.inj hs
    cases b with
    | false => exact ⟨by decide, by cbv⟩
    | true => exact ⟨by decide, by cbv⟩
  | timestamp utc => exact absurd rfl hkind
  | blob data =>
    obtain rfl : Base64.encode data = s := Except.ok.inj hs
    exact ⟨Base64.comma_not_mem_encode data, strip_encode data⟩

/-- The text of a moment begins with the name of its weekday and a comma. -/
theorem exists_weekday_textOf {v : Value} {s : String} (h : OfKind .timestamp v)
    (hs : textOf .rfc822 .timestamp v = .ok s) :
    ∃ day ∈ Calendar.weekdayNames, ∃ rest, s.toList = day.toList ++ ',' :: rest := by
  cases h with
  | timestamp utc =>
    rw [textOf_timestamp utc .rfc822] at hs
    obtain rfl : Rfc822.render _ = s := Except.ok.inj hs
    exact Rfc822.exists_weekday_append _

end Scalar

/-! ### Fields -/

/-- The header fields of a response that has those of a request. -/
def Headers.ofFields (fields : List (Value × String)) : Except Failure Headers :=
  Headers.ofEntries (fields.map fun p => (p.1, .str p.2))

namespace ResponseReader

/-- Texts without commas and blanks around them are the parts of what they are joined to. -/
theorem parts_join {texts : List String} (ne : texts ≠ [])
    (plain : ∀ s ∈ texts, ',' ∉ s.toList ∧ Text.strip s = s) :
    ((Text.pieces ',' (Text.join "," texts).toList).map fun cs =>
      Text.strip (String.ofList cs)) = texts := by
  rw [Text.pieces_join rfl ne fun s hs => (plain s hs).1, List.map_map]
  refine (List.map_congr_left fun s hs => ?_).trans (List.map_id _)
  rw [Function.comp_apply, String.ofList_toList, (plain s hs).2, id_eq]

variable {g : Graph} {m : Member g.size} {item : g.Ref} {kind : ScalarKind}
  (form : (g.shape m.shape).form = .list item) (scalar : (g.shape item).form = .scalar kind)
  (text : m.wireName = .str m.wireName.text)

include form scalar text

/-- A list of items that all have texts is written as the texts with commas between them. -/
theorem headerFields_list {items : List Value} {texts : List String}
    (h : items.mapM (Scalar.textOf .rfc822 kind) = .ok texts) :
    RequestWriter.headerFields m (.list items) = .ok [(m.wireName, Text.join "," texts)] := by
  have hitems : RequestWriter.itemsOf (.list items) = .ok items := rfl
  have htexts : items.mapM (RequestWriter.scalarText g .rfc822 item) = .ok texts := by
    rw [funext (RequestWriter.scalarText_of_form scalar), h]
  have hkey : m.wireName.asKey = .ok m.wireName := by rw [text, Value.asKey_str]
  rw [RequestWriter.headerFields, form]
  simp only [hitems, htexts, hkey, ok_bind]
  rfl

/-- A field is read as the list of what stands between its commas. -/
theorem readHeader_list (s : String) :
    ∃ h, Headers.ofFields [(m.wireName, s)] = .ok h ∧
      readHeader h m =
        (((Text.pieces ',' s.toList).map fun cs => Text.strip (String.ofList cs)).mapM
          (Scalar.ofText kind)).map fun vs => some (.list vs) := by
  refine ⟨.ofPairs [(m.wireName.text, .str s)], ?_, ?_⟩
  · rw [Headers.ofFields, text]
    exact Headers.ofEntries_textKeys [(m.wireName.text, .str s)]
  · have hname : Headers.nameOf m.wireName = .ok m.wireName.text := by rw [text]; rfl
    have hnames : ([(m.wireName.text, Value.str s)].map fun p => Text.lower p.1).Nodup :=
      List.nodup_singleton _
    have hget : (Headers.ofPairs [(m.wireName.text, .str s)]).get? m.wireName.text =
        some (.str s) :=
      Headers.get?_ofPairs hnames (p := (m.wireName.text, .str s)) (List.mem_singleton_self _)
    have hraw : ((some (Value.str s)).filter fun v => !v.isNull) = some (.str s) := rfl
    have hread : (fun part => scalarOf g item (.str part)) = Scalar.ofText kind :=
      funext (scalarOf_of_form scalar)
    rw [readHeader, hname, ok_bind, hget]
    simp only [form, hraw, hread, Value.asText, ok_bind]
    rfl

/-- What is written for a list of scalars is read back, unless the list is empty or its items are
moments: an empty list is read as what an empty text is as its only item, and a list of moments is
refused for the weekday that the first one begins with. -/
theorem readHeader_headerFields_list (exact : Scalar.Exact kind) {items : List Value}
    (typed : ∀ v ∈ items, Scalar.OfKind kind v) (hitems : ∀ v ∈ items, Scalar.InHeaderList v) :
    ∃ fields h, RequestWriter.headerFields m (.list items) = .ok fields ∧
      Headers.ofFields fields = .ok h ∧
      (items ≠ [] → kind ≠ .timestamp → readHeader h m = .ok (some (.list items))) ∧
      (items = [] → readHeader h m =
        (Scalar.ofText kind "").map fun v => some (.list [v])) ∧
      (items ≠ [] → kind = .timestamp → ∃ day ∈ Calendar.weekdayNames,
        readHeader h m = .error (.unrecognizedTimestamp (Quoted.text day))) := by
  have htexts : ∀ v ∈ items, ∃ s, Scalar.textOf .rfc822 kind v = .ok s ∧
      Scalar.ofText kind s = .ok v := fun v hv =>
    Scalar.exists_headerText (typed v hv) exact (hitems v hv).inHeader
  choose! textOf hwrite hread using htexts
  have hwritten := headerFields_list form scalar text (mapM_eq_pure hwrite)
  obtain ⟨h, hfields, hlist⟩ :=
    readHeader_list form scalar text (Text.join "," (items.map textOf))
  refine ⟨_, h, hwritten, hfields, fun hne hkind => ?_, ?_, fun hne hkind => ?_⟩
  · have hplain : ∀ v ∈ items, ',' ∉ (textOf v).toList ∧ Text.strip (textOf v) = textOf v :=
      fun v hv => Scalar.plain_of_textOf (typed v hv) exact hkind (hitems v hv) (hwrite v hv)
    have hparts := parts_join (fun hnil => hne (List.map_eq_nil_iff.mp hnil))
      (List.forall_mem_map.mpr hplain)
    have hback : (items.map textOf).mapM (Scalar.ofText kind) = .ok items := by
      rw [List.mapM_map]
      refine (mapM_eq_pure (h := id) hread).trans ?_
      rw [List.map_id]
      rfl
    rw [hlist, hparts, hback]
    rfl
  · rintro rfl
    have hblank : Text.strip (String.ofList []) = "" := by cbv
    have hparts : ((Text.pieces ',' (Text.join "," ([].map textOf)).toList).map fun cs =>
        Text.strip (String.ofList cs)) = [""] := congrArg (fun s => [s]) hblank
    rw [hlist, hparts, List.mapM_cons, List.mapM_nil]
    cases Scalar.ofText kind "" <;> rfl
  · subst hkind
    -- The first comma is the one after the weekday of the first moment, wherever the others are.
    obtain ⟨v, rest, rfl⟩ := List.exists_cons_of_ne_nil hne
    obtain ⟨day, hday, rest', hfirst⟩ :=
      Scalar.exists_weekday_textOf (typed v (List.mem_cons_self ..))
      (hwrite v (List.mem_cons_self ..))
    obtain ⟨after, hjoin⟩ := Text.exists_join_append "," (textOf v) (rest.map textOf)
    have hcomma : ',' ∉ day.toList := fun hc =>
      absurd (Rfc822.isAlpha_of_mem_weekday hday hc) (by decide)
    have hpieces : Text.pieces ',' (Text.join "," ((v :: rest).map textOf)).toList =
        day.toList :: Text.pieces ',' (rest' ++ after) := by
      rw [List.map_cons, hjoin, hfirst, List.append_assoc, List.cons_append,
        Text.pieces_append hcomma]
    refine ⟨day, hday, ?_⟩
    rw [hlist, hpieces, List.map_cons, List.mapM_cons, String.ofList_toList,
      Rfc822.strip_weekday hday, Scalar.ofText, Scalar.momentOfText_weekday hday]
    rfl

end ResponseReader

/-! ### A roster -/

/-- The numerals that name the shapes of a roster. -/
local instance rosterShapes : NeZero 5 := ⟨by decide⟩

/-- The shapes of a roster: its days and the sizes of its shifts are in the header. -/
def rosters : Graph where
  size := 5
  shapes := #v[
    { name := "Roster"
      form := .struct [
        { name := "Days", shape := 1, location := .header, locationName := .str "x-days" },
        { name := "Sizes", shape := 3, location := .header, locationName := .str "x-sizes" }] },
    { name := "Days", form := .list 2 },
    { name := "Day", form := .scalar .timestamp },
    { name := "Sizes", form := .list 4 },
    { name := "Size", form := .scalar .integer }]

/-- The days of a roster. -/
def rosterDays : Member rosters.size :=
  { name := "Days", shape := ⟨1, by decide⟩, location := .header, locationName := .str "x-days" }

/-- The sizes of the shifts of a roster. -/
def rosterSizes : Member rosters.size :=
  { name := "Sizes", shape := ⟨3, by decide⟩, location := .header, locationName := .str "x-sizes" }

/-- The first day of a roster, which is 1704164645 seconds after the epoch. -/
def firstDay : DateTime :=
  ⟨DateTime.epochWall + 1704164645 * microsPerSecond, some 0, by decide⟩

namespace ResponseReader

/-- Two sizes are read back. -/
theorem readHeader_headerFields_list_sizes :
    rosterSizes ∈ rosters.members ⟨0, by decide⟩ ∧ ∃ fields h,
      RequestWriter.headerFields rosterSizes (.list [.int 12, .int (-3)]) = .ok fields ∧
      Headers.ofFields fields = .ok h ∧
      readHeader h rosterSizes = .ok (some (.list [.int 12, .int (-3)])) := by
  have hitem : (rosters.shape ⟨4, by decide⟩).form = .scalar .integer := rfl
  have htyped : ∀ v ∈ [Value.int 12, Value.int (-3)], Scalar.OfKind .integer v :=
    List.forall_mem_cons.mpr ⟨.integer 12, List.forall_mem_singleton.mpr (.integer (-3))⟩
  obtain ⟨fields, h, hfields, hh, hread, -⟩ := readHeader_headerFields_list (m := rosterSizes)
    rfl hitem rfl (by decide) htyped
    (List.forall_mem_cons.mpr ⟨trivial, List.forall_mem_singleton.mpr trivial⟩)
  exact ⟨List.mem_cons_of_mem _ (List.mem_singleton_self _), fields, h, hfields, hh,
    hread (List.cons_ne_nil _ _) (by decide)⟩

/-- A day that is the same on its own is not read back as the only item of a list. -/
theorem readHeader_headerFields_list_days :
    rosterDays ∈ rosters.members ⟨0, by decide⟩ ∧
      (Scalar.OfKind .timestamp (.datetime firstDay) ∧ Scalar.InHeaderList (.datetime firstDay)) ∧
      ∃ fields h, RequestWriter.headerFields rosterDays (.list [.datetime firstDay]) = .ok fields ∧
        Headers.ofFields fields = .ok h ∧
        readHeader h rosterDays = .error (.unrecognizedTimestamp "'Tue'") := by
  have hyear : 100 ≤ firstDay.fields.date.year := by cbv
  have hutc : firstDay.IsUtc := rfl
  have hrender : Rfc822.render firstDay = "Tue, 02 Jan 2024 03:04:05 GMT" := by cbv
  have htext : [Value.datetime firstDay].mapM (Scalar.textOf .rfc822 .timestamp) =
      .ok ["Tue, 02 Jan 2024 03:04:05 GMT"] := by
    rw [List.mapM_cons, Scalar.textOf_timestamp hutc .rfc822, Scalar.momentDocument, hrender]
    rfl
  have hitem : (rosters.shape ⟨2, by decide⟩).form = .scalar .timestamp := rfl
  obtain ⟨h, hfields, hread⟩ := readHeader_list (m := rosterDays) rfl hitem rfl
    "Tue, 02 Jan 2024 03:04:05 GMT"
  refine ⟨List.mem_cons_self .., ⟨.timestamp hutc, rfl, hyear⟩, _, h,
    headerFields_list (m := rosterDays) rfl hitem rfl htext, hfields, hread.trans ?_⟩
  cbv

end ResponseReader

end ServiceWire
