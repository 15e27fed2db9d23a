import ServiceWire.Proofs.Shape.WellTyped
import ServiceWire.Proofs.Stream.Run
import ServiceWire.Proofs.Value.Texts

/-!
# Header fields of frames

The header fields of a frame are those that name the event, those of the members that are located
in the header, and the content type. The members have names that no other field has, so each field
is found again under its name, and what is read from the fields is what was written to them.
-/

namespace ServiceWire

namespace Frame

/-- The names of the header fields that have a meaning of their own. -/
def reserved : List String :=
  [messageTypeField, eventTypeField, errorTypeField, contentTypeField, errorCodeField,
    errorTextField]

end Frame

namespace EventHandler

variable {c : Codec} {g : Graph} {v : Value} {members : List (Member g.size)}
  {fields : List (Value × Value)}

/-! ### Writing -/

/-- Header fields with the member of a value, if it is located there and its name is a text. -/
def withField (g : Graph) (v : Value) (fields : List (Value × Value)) (m : Member g.size) :
    List (Value × Value) :=
  if m.location = .header ∧ (memberValue g v m).isNull = false then
    Entries.put (.str m.wireName.text) (memberValue g v m) fields
  else fields

theorem foldlM_writeField (texts : ∀ m ∈ members, m.wireName = .str m.wireName.text) :
    members.foldlM (writeField g v) fields = .ok (members.foldl (withField g v) fields) := by
  induction members generalizing fields with
  | nil => rfl
  | cons m rest ih =>
    have hm : writeField g v fields m = .ok (withField g v fields m) := by
      rw [writeField, withField, texts m (List.mem_cons_self ..), Value.asKey_str]
      simp only [Bool.and_eq_true, beq_iff_eq, Bool.not_eq_true']
      split
      · rfl
      · rfl
    rw [List.foldlM_cons, hm, List.foldl_cons, ok_bind]
    exact ih fun m' hm' => texts m' (List.mem_cons_of_mem _ hm')

/-- A frame is written if its payload is, with the fields of the members between those that name
the event and the content type. -/
theorem writeFrame_eq {r : g.Ref} (texts : ∀ m ∈ g.members r, m.wireName = .str m.wireName.text)
    (event : String) (contentType v : Value) :
    writeFrame c g event r contentType v =
      (payloadOf c g event r contentType v).map fun p =>
        ⟨Entries.put (.str Frame.contentTypeField) p.1
          ((g.members r).foldl (withField g v) (eventFields g event (g.shape r))),
          .ofBytes p.2⟩ := by
  have hfields : (g.members r).foldlM (writeField g v) (eventFields g event (g.shape r)) =
      .ok ((g.members r).foldl (withField g v) (eventFields g event (g.shape r))) :=
    foldlM_writeField texts
  rw [Graph.members] at hfields ⊢
  rw [writeFrame, hfields]
  cases payloadOf c g event r contentType v with
  | error e => rfl
  | ok p => rfl

/-- What a frame that was written consists of. -/
theorem exists_of_writeFrame {r : g.Ref} {event : String} {contentType : Value} {f : Frame}
    (texts : ∀ m ∈ g.members r, m.wireName = .str m.wireName.text)
    (h : writeFrame c g event r contentType v = .ok f) :
    ∃ type data, payloadOf c g event r contentType v = .ok (type, data) ∧
      f = ⟨Entries.put (.str Frame.contentTypeField) type
        ((g.members r).foldl (withField g v) (eventFields g event (g.shape r))), .ofBytes data⟩ := by
  rw [writeFrame_eq texts] at h
  cases hp : payloadOf c g event r contentType v with
  | error e =>
    rw [hp] at h
    cases h
  | ok p =>
    rw [hp] at h
    cases h
    exact ⟨p.1, p.2, rfl, rfl⟩

theorem lookup_withField (name : String) (m : Member g.size) :
    (withField g v fields m).lookup (.str name) =
      if m.location = .header ∧ name = m.wireName.text ∧ (memberValue g v m).isNull = false then
        some (memberValue g v m)
      else fields.lookup (.str name) := by
  rw [withField]
  by_cases hput : m.location = .header ∧ (memberValue g v m).isNull = false
  · rw [if_pos hput, Entries.lookup_put_str]
    simp only [hput.1, hput.2, true_and, and_true]
  · rw [if_neg hput, if_neg fun h => hput ⟨h.1, h.2.2⟩]

/-- A field that is none of the members' stays as it is. -/
theorem lookup_foldl_withField_of_ne {name : String}
    (h : ∀ m ∈ members, m.location = .header → m.wireName.text ≠ name) :
    (members.foldl (withField g v) fields).lookup (.str name) = fields.lookup (.str name) := by
  induction members generalizing fields with
  | nil => rfl
  | cons m rest ih =>
    rw [List.foldl_cons, ih fun m' hm' => h m' (List.mem_cons_of_mem _ hm'), lookup_withField,
      if_neg]
    rintro ⟨hloc, rfl, -⟩
    exact h m (List.mem_cons_self ..) hloc rfl

/-- The field of a member that is located in the header has the value of the member. -/
theorem lookup_foldl_withField_of_mem {m : Member g.size} (hm : m ∈ members)
    (hloc : m.location = .header)
    (names : ∀ m' ∈ members, m'.location = .header → m'.wireName.text = m.wireName.text → m' = m) :
    (members.foldl (withField g v) fields).lookup (.str m.wireName.text) =
      if (memberValue g v m).isNull then fields.lookup (.str m.wireName.text)
      else some (memberValue g v m) := by
  induction members generalizing fields with
  | nil => cases hm
  | cons m' rest ih =>
    have hnames : ∀ p ∈ rest, p.location = .header → p.wireName.text = m.wireName.text → p = m :=
      fun p hp => names p (List.mem_cons_of_mem _ hp)
    rw [List.foldl_cons]
    by_cases hrest : m ∈ rest
    · rw [ih hrest hnames]
      cases hnull : (memberValue g v m).isNull with
      | false => rfl
      | true =>
        rw [if_pos rfl, if_pos rfl, lookup_withField, if_neg]
        rintro ⟨hloc', heq, hnull'⟩
        obtain rfl := names m' (List.mem_cons_self ..) hloc' heq.symm
        rw [hnull] at hnull'
        cases hnull'
    · obtain rfl : m = m' := (List.mem_cons.mp hm).resolve_right hrest
      rw [lookup_foldl_withField_of_ne fun p hp hlocp heq => hrest (hnames p hp hlocp heq ▸ hp),
        lookup_withField]
      cases hnull : (memberValue g v m).isNull with
      | false => rw [if_pos ⟨hloc, rfl, rfl⟩, if_neg Bool.false_ne_true]
      | true => rw [if_neg fun h => Bool.noConfusion h.2.2, if_pos rfl]

/-! ### Reading -/

/-- A well-typed value is its own field: the texts are of shapes whose values are texts. -/
theorem fieldValue_of_wellTyped {d : Demands g} {r : g.Ref} {x : Value} (h : WellTyped g d r x) :
    fieldValue g r x = .ok x := by
  cases h with
  | struct => rfl
  | list => rfl
  | map => rfl
  | scalar form typed _ =>
    cases typed with
    | string s =>
      rw [fieldValue, Shape.kind, form]
      rfl
    | _ => rfl

/-- The fields that hold the members that a value has are read as these members. -/
theorem readFields_of_header? {f : Frame} {d : Demands g} {values : List (String × Value)}
    (texts : ∀ m ∈ members, m.wireName = .str m.wireName.text)
    (names : (members.map Member.name).Nodup)
    (hfields : ∀ m ∈ members, m.location = .header →
      f.header? (.str m.wireName.text) = values.lookup m.name)
    (typed : ∀ m ∈ members, ∀ x, values.lookup m.name = some x → WellTyped g d m.shape x) :
    readFields g f members =
      .ok ((present (members.filter fun m => m.location == .header) values).map fun q =>
        (q.1.name, q.2)) := by
  have hread : (members.filter fun m => m.location == .header).mapM (readField g f) =
      .ok ((members.filter fun m => m.location == .header).map fun m =>
        (values.lookup m.name).map fun x => (m.name, x)) := by
    refine mapM_eq_pure fun m hm => ?_
    obtain ⟨hm, hloc⟩ := List.mem_filter.mp hm
    rw [readField, texts m hm, Value.asKey_str, ok_bind, hfields m hm (beq_iff_eq.mp hloc)]
    cases hl : values.lookup m.name with
    | none => rfl
    | some x =>
      simp only [fieldValue_of_wellTyped (typed m hm x hl)]
      rfl
  have hpresent : ((members.filter fun m => m.location == .header).map fun m =>
      (values.lookup m.name).map fun x => (m.name, x)).filterMap id =
        (present (members.filter fun m => m.location == .header) values).map fun q =>
          (q.1.name, q.2) := by
    rw [present, List.filterMap_map, List.map_filterMap]
    refine List.filterMap_congr fun m _ => ?_
    rw [Function.comp_apply, id, Option.map_map]
    rfl
  rw [readFields, hread, ok_bind, hpresent, Entries.ofPairs_eq_self]
  · rfl
  · rw [List.map_map]
    exact nodup_present (names.sublist (List.filter_sublist.map _)) values

end EventHandler

end ServiceWire
