import ServiceWire.Proofs.Stream.Handler

/-!
# Raw payloads of other types

A payload member that is a byte string or a text is the payload as it is. Its value is not asked
for its type: what is made of a value of another type is bytes, if there is a way to make them. An
empty value makes none, whatever its type; where a byte string is asked for, a number makes as many
zero bytes and a sequence of small numbers those bytes. Exactly these values are sent, and for every
other value the event is refused.
-/

namespace ServiceWire

namespace EventHandler

variable {v : Value} {data : Bytes}

/-! ### What is made of a value -/

/-- The values that a raw payload of a kind is meant for. -/
inductive IsRaw : ScalarKind → Value → Prop
  | blob (form : BytesForm) (data : Bytes) : IsRaw .blob (.bytes form data)
  | string (s : String) : IsRaw .string (.str s)

/-- A number that stands for a byte. -/
inductive IsByte : Value → UInt8 → Prop
  | int {i : Int} : 0 ≤ i → i < 256 → IsByte (.int i) (UInt8.ofNat i.toNat)
  | bool (b : Bool) : IsByte (.bool b) (if b then 1 else 0)

/-- The bytes that are made of a value of another type. -/
inductive MadeInto : ScalarKind → Value → Bytes → Prop
  /-- An empty value makes none. -/
  | empty {kind : ScalarKind} {v : Value} : v.truthy = false → MadeInto kind v []
  /-- A number makes as many zero bytes. -/
  | zeros {i : Int} : 0 < i → i < 9223372036854775808 →
      MadeInto .blob (.int i) (List.replicate i.toNat 0)
  | zero : MadeInto .blob (.bool true) [0]
  /-- Whatever yields small numbers when it is gone through makes those bytes. -/
  | items {v : Value} {items : List Value} {data : Bytes} :
      v.truthy = true → (∀ s, v ≠ .str s) → v.items? = some items →
        List.Forall₂ IsByte items data → MadeInto .blob v data

theorem byteOf_eq_ok_iff {b : UInt8} : byteOf v = .ok b ↔ IsByte v b := by
  constructor
  · intro h
    cases v with
    | int i =>
      rw [byteOf] at h
      split at h
      · rename_i hi
        obtain rfl := Except.ok.inj h
        exact .int hi.1 hi.2
      · cases h
    | bool b =>
      obtain rfl := Except.ok.inj h
      exact .bool b
    | _ => cases h
  · intro h
    cases h with
    | int hlow hhigh => exact if_pos ⟨hlow, hhigh⟩
    | bool b => rfl

theorem mapM_byteOf_iff {items : List Value} :
    items.mapM byteOf = .ok data ↔ List.Forall₂ IsByte items data := by
  refine ⟨fun h => ?_, fun h => ?_⟩
  · exact (forall₂_of_mapM h).imp fun _ _ => byteOf_eq_ok_iff.mp
  · exact mapM_of_forall₂ (h.imp fun _ _ => byteOf_eq_ok_iff.mpr)

theorem zeros_eq_ok_iff {i : Int} :
    zeros i = .ok data ↔
      0 ≤ i ∧ i < 9223372036854775808 ∧ data = List.replicate i.toNat 0 := by
  have hfits := fitsWord_63_iff (i := i)
  rw [zeros]
  cases hf : fitsWord 63 i with
  | false =>
    rw [hf] at hfits
    refine iff_of_false (fun h => by cases h) fun h => ?_
    exact Bool.false_ne_true (hfits.mpr ⟨by omega, h.2.1⟩)
  | true =>
    have hbound := hfits.mp hf
    rw [Bool.not_true, if_neg Bool.false_ne_true]
    split
    · exact iff_of_false (fun h => by cases h) (by omega)
    · exact ⟨fun h => ⟨by omega, hbound.2, (Except.ok.inj h).symm⟩,
        fun h => congrArg _ h.2.2.symm⟩

/-- What is no byte string, number or text is gone through. -/
theorem bytesFrom_eq_ok_iff_items (hv : ¬IsRaw .blob v) (hint : ∀ i, v ≠ .int i)
    (hbool : ∀ b, v ≠ .bool b) (hstr : ∀ s, v ≠ .str s) :
    bytesFrom v = .ok data ↔ ∃ items, v.items? = some items ∧ List.Forall₂ IsByte items data := by
  have hfrom : bytesFrom v =
      v.items?.elim (.error (.plain .type)) fun items => items.mapM byteOf := by
    cases v with
    | bytes form data => exact absurd (.blob form data) hv
    | int i => exact absurd rfl (hint i)
    | bool b => exact absurd rfl (hbool b)
    | str s => exact absurd rfl (hstr s)
    | _ => rfl
  rw [hfrom]
  cases v.items? with
  | none => exact iff_of_false (fun h => by cases h) fun ⟨_, h, _⟩ => by cases h
  | some items =>
    rw [Option.elim_some, mapM_byteOf_iff]
    exact ⟨fun h => ⟨items, rfl, h⟩, fun ⟨_, heq, h⟩ => Option.some.inj heq ▸ h⟩

theorem bytesFrom_eq_ok_iff (hv : ¬IsRaw .blob v) (htrue : v.truthy = true) :
    bytesFrom v = .ok data ↔ MadeInto .blob v data := by
  have hempty : ¬v.truthy = false := by rw [htrue]; decide
  cases v with
  | bytes form data => exact absurd (.blob form data) hv
  | str s =>
    refine iff_of_false (fun h => by cases h) fun h => ?_
    cases h with
    | empty hfalse => exact hempty hfalse
    | items _ hstr => exact hstr s rfl
  | int i =>
    have hne : i ≠ 0 := by simpa [Value.truthy] using htrue
    rw [bytesFrom, zeros_eq_ok_iff]
    constructor
    · rintro ⟨hlow, hhigh, rfl⟩
      exact .zeros (by omega) hhigh
    · intro h
      cases h with
      | empty hfalse => exact absurd hfalse hempty
      | zeros hlow hhigh => exact ⟨by omega, hhigh, rfl⟩
      | items _ _ hitems => cases hitems
  | bool b =>
    obtain rfl : b = true := htrue
    rw [bytesFrom, if_pos rfl, zeros_eq_ok_iff]
    constructor
    · rintro ⟨-, -, rfl⟩
      exact .zero
    · intro h
      cases h with
      | empty hfalse => exact absurd hfalse hempty
      | zero => exact ⟨by decide, by decide, rfl⟩
      | items _ _ hitems => cases hitems
  | _ =>
    rw [bytesFrom_eq_ok_iff_items hv nofun nofun nofun]
    constructor
    · rintro ⟨items, hitems, hall⟩
      exact .items htrue nofun hitems hall
    · intro h
      cases h with
      | empty hfalse => exact absurd hfalse hempty
      | items _ _ hitems hall => exact ⟨_, hitems, hall⟩

/-- What is no byte string is sent as a byte string only if it is made into one. -/
theorem rawBytes_eq_ok_iff (hv : ¬IsRaw .blob v) :
    rawBytes v = .ok data ↔ MadeInto .blob v data := by
  rw [rawBytes]
  cases htrue : v.truthy with
  | true => exact bytesFrom_eq_ok_iff hv htrue
  | false =>
    constructor
    · intro h
      obtain rfl := Except.ok.inj h
      exact .empty htrue
    · intro h
      cases h with
      | empty => rfl
      | zeros hlow => exact absurd htrue (by simp [Value.truthy]; omega)
      | zero => cases htrue
      | items htrue' => exact absurd (htrue.symm.trans htrue') Bool.false_ne_true

/-- What is no text is sent as a text only if it is empty. -/
theorem rawText_eq_ok_iff (hv : ¬IsRaw .string v) :
    rawText v = .ok data ↔ MadeInto .string v data := by
  unfold rawText
  cases htrue : v.truthy with
  | true =>
    rw [Bool.not_true, if_neg Bool.false_ne_true]
    refine iff_of_false (fun h => ?_) fun h => ?_
    · cases v with
      | str s => exact hv (.string s)
      | _ => cases h
    · cases h with
      | empty hfalse => exact absurd (htrue.symm.trans hfalse) (by decide)
  | false =>
    constructor
    · intro h
      obtain rfl := Except.ok.inj h
      exact .empty htrue
    · intro h
      cases h with
      | empty => rfl

/-! ### Events with raw payloads -/

variable {c : Codec} {g : Graph} {event : String} {r : g.Ref} {contentType payload : Value}

/-- The header fields of a value can be written: their names can be keys. -/
def HasKeys (g : Graph) (r : g.Ref) : Prop :=
  ∀ m ∈ g.members r, m.location = .header → m.wireName.isKey = true

instance (g : Graph) (r : g.Ref) : Decidable (HasKeys g r) :=
  inferInstanceAs (Decidable (∀ m ∈ _, _ → _))

theorem exists_fields (h : HasKeys g r) (v : Value) (fields : List (Value × Value)) :
    ∃ fields', (g.members r).foldlM (writeField g v) fields = .ok fields' := by
  refine exists_foldlM (fun m hm fields => ?_) fields
  rw [writeField]
  split
  · rename_i hput
    have hkey := h m hm (beq_iff_eq.mp (Bool.and_eq_true_iff.mp hput).1)
    rw [Value.asKey, if_pos hkey]
    exact ⟨_, rfl⟩
  · exact ⟨fields, rfl⟩

section

variable (c event contentType)
variable {p : Member g.size} {kind : ScalarKind} (hp : (g.shape r).payloadMember? = some p)
  (hkind : (g.shape p.shape).kind = .scalar kind) (hraw : kind = .blob ∨ kind = .string)
  (hv : ¬IsRaw kind (memberValue g payload p))

include hp hkind hraw hv

/-- The payload is what is made of the value, if anything is. -/
theorem exists_made : ∃ (type : Value) (made : Except Failure Bytes),
    payloadOf c g event r contentType payload =
      (made.mapError Fault.failure).map (fun data => (type, data)) ∧
    ∀ data, made = .ok data ↔ MadeInto kind (memberValue g payload p) data := by
  rw [payloadOf, hp]
  rcases hraw with rfl | rfl
  · simp only [hkind]
    exact ⟨_, _, rfl, fun data => rawBytes_eq_ok_iff hv⟩
  · simp only [hkind]
    exact ⟨_, _, rfl, fun data => rawText_eq_ok_iff hv⟩

theorem exists_writeFrame_error (hnone : ∀ data, ¬MadeInto kind (memberValue g payload p) data) :
    ∃ f, writeFrame c g event r contentType payload = .error (.failure f) := by
  obtain ⟨type, made, hpayload, hmade⟩ := exists_made c event contentType hp hkind hraw hv
  rw [writeFrame]
  cases (g.shape r).members.foldlM (writeField g payload) (eventFields g event (g.shape r)) with
  | error f => exact ⟨f, rfl⟩
  | ok fields =>
    cases made with
    | error f => exact ⟨f, by rw [hpayload]; rfl⟩
    | ok data => exact absurd ((hmade data).mp rfl) (hnone data)

theorem exists_writeFrame_ok (hkeys : HasKeys g r) {data : Bytes}
    (hdata : MadeInto kind (memberValue g payload p) data) :
    ∃ f, writeFrame c g event r contentType payload = .ok f ∧ f.payload = .ofBytes data := by
  obtain ⟨type, made, hpayload, hmade⟩ := exists_made c event contentType hp hkind hraw hv
  obtain ⟨fields, hfields⟩ := exists_fields hkeys payload (eventFields g event (g.shape r))
  obtain rfl := (hmade data).mpr hdata
  refine ⟨⟨Entries.put (.str Frame.contentTypeField) type fields, .ofBytes data⟩, ?_, rfl⟩
  rw [Graph.members] at hfields
  rw [writeFrame, hfields, hpayload]
  rfl

end

end EventHandler

namespace EventUnion

open EventHandler

/-- A payload member that is a byte string or a text is not asked for the type of its value: for a
value of another type the event is refused if no bytes are made of it, and else those are sent. -/
theorem write_mistyped {c : Codec} {g : Graph} {union : g.Ref} {contentType operation : Value}
    {settings : StreamSettings} {handlers : List (EventHandler g)} {u : EventUnion g}
    (hhandlers : standardFor c g union contentType = .ok handlers)
    (hu : create g union handlers settings operation = .ok u) {name : String} {m : Member g.size}
    (hm : variant? g union name = some m) {p : Member g.size}
    (hp : (g.shape m.shape).payloadMember? = some p) {kind : ScalarKind}
    (hkind : (g.shape p.shape).kind = .scalar kind) (hraw : kind = .blob ∨ kind = .string)
    {e : Envelope} (he : e.event = .str name) (hv : ¬IsRaw kind (memberValue g e.payload p)) :
    ((∀ data, ¬MadeInto kind (memberValue g e.payload p) data) →
      ∃ cause, u.write e =
        (.error (.eventMarshalling (.str name) operation cause), [outbound false])) ∧
    ∀ data, MadeInto kind (memberValue g e.payload p) data → HasKeys g m.shape →
      ∃ f, u.write e = (.ok f, [outbound true]) ∧ f.payload = .ofBytes data := by
  have hdispatch := dispatch_of_create hhandlers hu hm
  obtain ⟨rfl, -⟩ := eq_of_create hu
  refine ⟨fun hnone => ?_, fun data hdata hkeys => ?_⟩
  · obtain ⟨cause, hframe⟩ := exists_writeFrame_error c name contentType hp hkind hraw hv hnone
    refine ⟨cause, ?_⟩
    rw [write, he, hdispatch]
    simp only [standard, hframe]
  · obtain ⟨f, hframe, hpayload⟩ :=
      exists_writeFrame_ok c name contentType hp hkind hraw hv hkeys hdata
    refine ⟨f, ?_, hpayload⟩
    rw [write, he, hdispatch]
    simp only [standard, hframe]

/-- The numerals that name three shapes. -/
local instance threeShapes : NeZero 3 := ⟨by decide⟩

/-- The events of an upload: its parts, each a byte string. -/
def upload : Graph where
  size := 3
  shapes := #v[
    { name := "Upload", eventStream := true, form := .struct [{ name := "part", shape := 1 }] },
    { name := "Part", form := .struct [{ name := "data", shape := 2, payload := true }] },
    { name := "Data", form := .scalar .blob }]

/-- The standard handlers of an upload. -/
def uploadHandlers : List (EventHandler upload) :=
  [standard (.complete .json false .null) upload "part" ⟨1, by decide⟩ .null]

theorem standardFor_upload :
    standardFor (.complete .json false .null) upload ⟨0, by decide⟩ .null = .ok uploadHandlers := by
  rfl

/-- An upload. -/
def uploadUnion : EventUnion upload := ⟨⟨0, by decide⟩, uploadHandlers, {}, .null⟩

theorem create_upload :
    create upload ⟨0, by decide⟩ uploadHandlers {} .null = .ok uploadUnion := by
  rfl

/-- A part of an upload with a value for its data. -/
def part (data : Value) : Envelope where
  event := .str "part"
  payload := .ofFields [("data", data)]

/-- A text is refused as data, and a list of numbers is sent as those bytes. -/
theorem write_mistyped_part :
    (∃ cause, uploadUnion.write (part (.str "abc")) =
      (.error (.eventMarshalling (.str "part") .null cause), [outbound false])) ∧
    ∃ f, uploadUnion.write (part (.list [.int 1, .int 255])) = (.ok f, [outbound true]) ∧
      f.payload = .ofBytes [1, 255] := by
  have hvariant : variant? upload ⟨0, by decide⟩ "part" =
      some { name := "part", shape := ⟨1, by decide⟩ } := rfl
  have hpayload : (upload.shape ⟨1, by decide⟩).payloadMember? =
      some { name := "data", shape := ⟨2, by decide⟩, payload := true } := rfl
  have hvalue (data : Value) : memberValue upload (part data).payload
      { name := "data", shape := ⟨2, by decide⟩, payload := true } = data := rfl
  constructor
  · refine (write_mistyped standardFor_upload create_upload hvariant hpayload rfl (.inl rfl) rfl
      ?_).1 ?_
    · rw [hvalue]
      exact nofun
    · rw [hvalue]
      rintro data (⟨hfalse⟩ | _ | _ | ⟨-, hstr, -, -⟩)
      · cases hfalse
      · exact hstr "abc" rfl
  · refine (write_mistyped standardFor_upload create_upload hvariant hpayload rfl (.inl rfl) rfl
      ?_).2 [1, 255] ?_ (by decide)
    · rw [hvalue]
      exact nofun
    · rw [hvalue]
      exact .items rfl nofun rfl (.cons (.int (by decide) (by decide))
        (.cons (.int (by decide) (by decide)) .nil))

/-- A number is sent as zero bytes, although it is no byte string. -/
theorem write_mistyped_number :
    Scalar.byteString (.int 3) = .error (.expected "bytes" "int") ∧
      ∃ f, uploadUnion.write (part (.int 3)) = (.ok f, [outbound true]) ∧
        f.payload = .ofBytes [0, 0, 0] :=
  ⟨rfl, _, rfl, rfl⟩

end EventUnion

end ServiceWire
