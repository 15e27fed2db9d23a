import ServiceWire.Codec.FormBody
import ServiceWire.Codec.JsonBody
import ServiceWire.Codec.XmlBody
import ServiceWire.Proofs.Fault
import ServiceWire.Proofs.Shape.Reachable
import ServiceWire.Proofs.Value.Parts

/-!
# Covered shapes

Going through a value or a document, a codec looks up only shapes that the first shape leads to. So
if its table has the kinds of all these shapes, no value and no document brings a defect of the
configuration to light, well-formed or not. This is shown of one step, given that it holds of the
parts, and from it of whole values.
-/

/-!
## Form bodies

Forms are written only. Whatever the path to a value is, only shapes that its shape leads to are
looked up.
-/

namespace ServiceWire.FormBody

variable {c : Codec} {g : Graph}

/-- What writes a value finds no defect for a shape that is covered, under any path. -/
def Writes (c : Codec) (g : Graph) (write : Writing g) : Prop :=
  ∀ r path, Covers g c.writers r → NoDefect (write r path)

theorem noDefect_writeMembers {w : View (Writing g)} (hw : w.All (Writes c g))
    {members : List (Member g.size)} (h : ∀ m ∈ members, Covers g c.writers m.shape)
    (path : Value) : NoDefect (writeMembers c g members path w) := by
  refine .map (.mapM fun m hm => ?_) _
  rw [writeMember]
  split
  · exact .ok []
  · rename_i v write hmember
    refine .bind (Codec.noDefect_needWriter (h m hm).self) fun _ => ?_
    exact hw.member hmember _ _ (h m hm)

theorem noDefect_writeItems {item : g.Ref} (hitem : Covers g c.writers item)
    {items : List (Value × Writing g)} (h : ∀ p ∈ items, Writes c g p.2) (path : Value) (i : Nat) :
    NoDefect (writeItems g item path i items) := by
  induction items generalizing i with
  | nil => exact .ok []
  | cons p rest ih =>
    rw [writeItems]
    refine .bind (h p (List.mem_cons_self ..) _ _ hitem) fun first => ?_
    exact .bind (ih (fun q hq => h q (List.mem_cons_of_mem _ hq)) (i + 1)) fun others => .pure _

theorem noDefect_writeEntries {value : g.Ref} (hvalue : Covers g c.writers value)
    {entries : List (Value × Value × Writing g)} (h : ∀ p ∈ entries, Writes c g p.2.2)
    (s : Shape g.size) (path : Value) (i : Nat) :
    NoDefect (writeEntries g s value path i entries) := by
  induction entries generalizing i with
  | nil => exact .ok []
  | cons p rest ih =>
    rw [writeEntries]
    refine .bind (.mapError _) fun key => ?_
    refine .bind (h p (List.mem_cons_self ..) _ _ hvalue) fun first => ?_
    exact .bind (ih (fun q hq => h q (List.mem_cons_of_mem _ hq)) (i + 1)) fun others => .pure _

theorem noDefect_writeView {w : View (Writing g)} (hw : w.All (Writes c g)) :
    Writes c g (writeView c g w) := by
  intro r path hr
  rw [writeView]
  split
  · rename_i members form
    exact noDefect_writeMembers hw (fun m hm => hr.member form hm) path
  · rename_i item form
    split
    · exact .failure _
    · exact .ok _
    · rename_i items hne hitems
      refine .bind (Codec.noDefect_needWriter (hr.item form).self) fun _ => ?_
      exact noDefect_writeItems (hr.item form) (hw.items _ hitems) _ 1
  · rename_i key value form
    split
    · exact .failure _
    · rename_i entries hentries
      refine .bind (Codec.noDefect_needWriter (hr.value form).self) fun _ => ?_
      exact noDefect_writeEntries (hr.value form) (hw.entries hentries) _ _ 1
  · exact .map (.mapError _) _

theorem noDefect_write (v : Value) : Writes c g (write c g v) :=
  Value.fold_of_all (fun _ hw => noDefect_writeView hw) v

theorem noDefect_toParams {r : g.Ref} (hr : Covers g c.writers r) (v path : Value) :
    NoDefect (toParams c g v r path none) := by
  rw [toParams]
  split
  · rename_i members form
    exact noDefect_writeMembers (Value.all_view noDefect_write v)
      (fun m hm => hr.member form hm) path
  · exact .bind (Codec.noDefect_needWriter hr.self) fun _ => noDefect_write v r path hr

end ServiceWire.FormBody

/-!
## JSON bodies
-/

namespace ServiceWire.JsonBody

variable {c : Codec} {g : Graph}

/-! ### Writing -/

/-- What writes a value finds no defect for a shape that is covered. -/
def Writes (c : Codec) (g : Graph) (write : Writing g) : Prop :=
  ∀ r, Covers g c.writers r → NoDefect (write r)

theorem noDefect_writeMembers {w : View (Writing g)} (hw : w.All (Writes c g))
    {members : List (Member g.size)} (h : ∀ m ∈ members, Covers g c.writers m.shape) :
    NoDefect (writeMembers c g members w) := by
  refine .map (.foldlM (fun m hm entries => ?_) []) _
  rw [writeMember]
  split
  · exact .ok entries
  · rename_i v write hmember
    refine .bind (Codec.noDefect_needWriter (h m hm).self) fun _ => ?_
    refine .bind (hw.member hmember _ (h m hm)) fun d => ?_
    exact .bind (.mapError _) fun name => .pure _

theorem noDefect_writeView {w : View (Writing g)} (hw : w.All (Writes c g)) :
    Writes c g (writeView c g w) := by
  intro r hr
  rw [writeView]
  split
  · rename_i members form
    exact noDefect_writeMembers hw fun m hm => hr.member form hm
  · rename_i item form
    split
    · exact .failure _
    · rename_i items hitems
      refine .bind (Codec.noDefect_needWriter (hr.item form).self) fun _ => ?_
      exact .bind (.mapM fun p hp => hw.items _ hitems p hp _ (hr.item form)) fun ds => .pure _
  · rename_i key value form
    split
    · exact .failure _
    · rename_i entries hentries
      refine .bind (Codec.noDefect_needWriter (hr.value form).self) fun _ => ?_
      refine .bind (.mapM fun p hp => ?_) fun ds => .pure _
      refine .bind (.mapError _) fun name => ?_
      exact .bind (hw.entries hentries p (List.mem_of_mem_filter hp) _ (hr.value form)) fun d =>
        .pure _
  · exact .mapError _

theorem noDefect_write (v : Value) : Writes c g (write c g v) :=
  Value.fold_of_all (fun _ hw => noDefect_writeView hw) v

theorem noDefect_toDocument {r : g.Ref} (hr : Covers g c.writers r) (v : Value)
    {members : Option (List (Member g.size))} (hm : ∀ ms ∈ members, ms ⊆ (g.shape r).members) :
    NoDefect (toDocument c g v r members) := by
  rw [toDocument]
  split
  · rename_i all form
    have hall : (g.shape r).members = all := by rw [Shape.members, form]
    refine noDefect_writeMembers (Value.all_view noDefect_write v) fun m hmem => ?_
    refine hr.member form ?_
    cases members with
    | none => exact hmem
    | some ms => exact hall ▸ hm ms rfl hmem
  · exact .bind (Codec.noDefect_needWriter hr.self) fun _ => noDefect_write v r hr

theorem noDefect_encode {r : g.Ref} (hr : Covers g c.writers r) (v : Value)
    {members : Option (List (Member g.size))} (hm : ∀ ms ∈ members, ms ⊆ (g.shape r).members) :
    NoDefect (encode c g v r members) :=
  .bind (noDefect_toDocument hr v hm) fun _ => .bind (.mapError _) fun _ => .pure _

/-! ### Reading -/

/-- What reads a document finds no defect for a shape that is covered. -/
def Reads (c : Codec) (g : Graph) (read : Reader g) : Prop :=
  ∀ r, Covers g c.readers r → (read r).NoDefect

theorem noDefect_readFields {members : List (Member g.size)}
    (h : ∀ m ∈ members, Covers g c.readers m.shape) {entries : List (Value × Value × Reader g)}
    (he : ∀ p ∈ entries, Reads c g p.2.2) (values : List (String × Value)) :
    (readFields c g members entries values).NoDefect := by
  induction entries generalizing values with
  | nil =>
    rw [readFields]
    exact .pure values
  | cons p rest ih =>
    obtain ⟨key, raw, read⟩ := p
    have hrest := ih fun q hq => he q (List.mem_cons_of_mem _ hq)
    rw [readFields]
    split
    · exact hrest values
    · rename_i m hmember
      have hm : Covers g c.readers m.shape :=
        h m (List.mem_reverse.mp (List.mem_of_find?_eq_some hmember))
      split
      · exact hrest values
      · refine .bind (.ofOutcome (Codec.noDefect_needReader hm.self)) fun _ => ?_
        exact .bind (he _ (List.mem_cons_self ..) _ hm) fun v => hrest _

theorem noDefect_noteUnknown (shape : String) (keys : List Value) :
    (noteUnknown c shape keys).NoDefect := by
  rw [noteUnknown]
  split
  · exact .note _
  · exact .pure _

theorem noDefect_readMembers {w : View (Reader g)} (hw : w.All (Reads c g)) (s : Shape g.size)
    {members : List (Member g.size)} (h : ∀ m ∈ members, Covers g c.readers m.shape) :
    (readMembers c g s members w).NoDefect := by
  rw [readMembers]
  split
  · exact .failure _
  · rename_i entries hentries
    refine .bind (.ofConversion _) fun _ => ?_
    refine .bind (noDefect_readFields h (hw.entries hentries) []) fun values => ?_
    exact .bind (noDefect_noteUnknown _ _) fun _ => .pure values

theorem noDefect_readView {w : View (Reader g)} (hw : w.All (Reads c g)) :
    Reads c g (readView c g w) := by
  intro r hr
  rw [readView]
  split
  · rename_i members form
    exact .bind (noDefect_readMembers hw _ fun m hm => hr.member form hm) fun _ => .ofConversion _
  · rename_i item form
    split
    · exact .failure _
    · rename_i items hitems
      refine .bind (.ofOutcome (Codec.noDefect_needReader (hr.item form).self)) fun _ => ?_
      refine .bind (.mapM fun p hp => ?_) fun vs => .pure _
      exact hw.listItems hitems p (List.mem_of_mem_filter hp) _ (hr.item form)
  · rename_i key value form
    split
    · exact .failure _
    · rename_i entries hentries
      refine .bind (.ofOutcome (Codec.noDefect_needReader (hr.value form).self)) fun _ => ?_
      refine .bind (.mapM fun p hp => ?_) fun vs => .pure _
      exact .bind (hw.entries hentries p (List.mem_of_mem_filter hp) _ (hr.value form)) fun v =>
        .pure _
  · exact .ofConversion _

theorem noDefect_read (d : Value) : Reads c g (read c g d) :=
  Value.fold_of_all (fun _ hw => noDefect_readView hw) d

theorem noDefect_readSome {r : g.Ref} {members : List (Member g.size)}
    (h : ∀ m ∈ members, Covers g c.readers m.shape) (d : Value) :
    (readSome c g d r members).NoDefect :=
  noDefect_readMembers (Value.all_view noDefect_read d) _ h

theorem noDefect_ofDocument {r : g.Ref} (hr : Covers g c.readers r) (d : Value) :
    (ofDocument c g d r none).NoDefect := by
  rw [ofDocument]
  split
  · rename_i members form
    exact .bind (noDefect_readSome (fun m hm => hr.member form hm) d) fun _ => .ofConversion _
  · exact .bind (.ofOutcome (Codec.noDefect_needReader hr.self)) fun _ => noDefect_read d r hr

theorem noDefect_decode {r : g.Ref} (hr : Covers g c.readers r) (body : Value) :
    (decode c g body r none).NoDefect := by
  rw [decode]
  refine .bind (.ofConversion _) fun text => ?_
  dsimp only
  split
  · exact .bind (.pure _) fun d => noDefect_ofDocument hr d
  · exact .bind (.ofConversion _) fun d => noDefect_ofDocument hr d

end ServiceWire.JsonBody

/-!
## XML bodies

A value has two forms in XML, an element of its own and what stands for it inside a structure, and
an element can be read as a value or as an entry of a map; each is covered with the other.
-/

namespace ServiceWire.XmlBody

open ServiceWire.Xml (Element)

variable {c : Codec} {g : Graph}

/-! ### Writing -/

/-- What writes a value finds no defect for a shape that is covered, in either form. -/
structure Writes (c : Codec) (g : Graph) (write : Writing g) : Prop where
  element : ∀ r tag, Covers g c.writers r → NoDefect (write.element r tag)
  inside : ∀ r tag, Covers g c.writers r → NoDefect (write.inside r tag)

theorem noDefect_writeMembers {w : View (Writing g)} (hw : w.All (Writes c g))
    {members : List (Member g.size)} (h : ∀ m ∈ members, Covers g c.writers m.shape) (tag : Value) :
    NoDefect (writeMembers g members tag w) := by
  refine .map (.foldlM (fun m hm acc => ?_) _) _
  rw [writeMember]
  split
  · exact .ok acc
  · rename_i v write hmember
    dsimp only
    split
    · exact .bind (.mapError _) fun text => .bind (.mapError _) fun name => .pure _
    · exact .bind ((hw.member hmember).inside _ _ (h m hm)) fun es => .pure _

theorem noDefect_itemsFor (s : Shape g.size) (w : View (Writing g)) :
    NoDefect (itemsFor g s w) := by
  rw [itemsFor]
  split
  · exact .failure _
  · exact .ok _

theorem writes_of_itemsFor {s : Shape g.size} {w : View (Writing g)} (hw : w.All (Writes c g))
    {items : List (Value × Writing g)} (h : itemsFor g s w = .ok items) :
    ∀ p ∈ items, Writes c g p.2 := by
  rw [itemsFor] at h
  split at h
  · cases h
  · rename_i hitems
    cases h
    exact hw.items _ hitems

theorem noDefect_entriesFor (s : Shape g.size) (w : View (Writing g)) :
    NoDefect (entriesFor g s w) := by
  rw [entriesFor]
  split
  · exact .failure _
  · exact .ok _

theorem writes_of_entriesFor {s : Shape g.size} {w : View (Writing g)} (hw : w.All (Writes c g))
    {entries : List (Value × Value × Writing g)} (h : entriesFor g s w = .ok entries) :
    ∀ p ∈ entries, Writes c g p.2.2 := by
  rw [entriesFor] at h
  split at h
  · cases h
  · rename_i hentries
    cases h
    exact hw.entries hentries

theorem noDefect_writeEntry {value : g.Ref} (hv : Covers g c.writers value)
    {p : Value × Value × Writing g} (hp : Writes c g p.2.2) (s : Shape g.size) (tag : Value) :
    NoDefect (writeEntry c g s value tag p) := by
  refine .bind (.mapError _) fun key => ?_
  refine .bind (Codec.noDefect_needWriter hv.self) fun _ => ?_
  exact .bind (hp.element _ _ hv) fun e => .pure _

theorem noDefect_writeElement {w : View (Writing g)} (hw : w.All (Writes c g)) {r : g.Ref}
    (hr : Covers g c.writers r) (tag : Value) : NoDefect (writeElement c g w r tag) := by
  rw [writeElement]
  split
  · rename_i members form
    exact noDefect_writeMembers hw (fun m hm => hr.member form hm) tag
  · rename_i item form
    refine .bind_of_ok (noDefect_itemsFor _ w) fun items hitems => ?_
    refine .bind (Codec.noDefect_needWriter (hr.item form).self) fun _ => ?_
    refine .bind (.mapM fun p hp => ?_) fun es => .pure _
    exact (writes_of_itemsFor hw hitems p hp).element _ _ (hr.item form)
  · rename_i key value form
    refine .bind_of_ok (noDefect_entriesFor _ w) fun entries hentries => ?_
    refine .bind (.mapM fun p hp => ?_) fun es => .pure _
    exact noDefect_writeEntry (hr.value form) (writes_of_entriesFor hw hentries p hp) _ _
  · exact .map (.mapError _) _

theorem noDefect_writeInside {w : View (Writing g)} (hw : w.All (Writes c g)) {r : g.Ref}
    (hr : Covers g c.writers r) (tag : Value) : NoDefect (writeInside c g w r tag) := by
  rw [writeInside]
  split
  · rename_i item flattened form
    refine .bind_of_ok (noDefect_itemsFor _ w) fun items hitems => .mapM fun p hp => ?_
    refine .bind (Codec.noDefect_needWriter (hr.item form).self) fun _ => ?_
    exact (writes_of_itemsFor hw hitems p hp).element _ _ (hr.item form)
  · rename_i key value flattened form
    refine .bind_of_ok (noDefect_entriesFor _ w) fun entries hentries => .mapM fun p hp => ?_
    exact noDefect_writeEntry (hr.value form) (writes_of_entriesFor hw hentries p hp) _ _
  · refine .bind (Codec.noDefect_needWriter hr.self) fun _ => ?_
    exact .bind (noDefect_writeElement hw hr tag) fun e => .pure _

theorem noDefect_write (v : Value) : Writes c g (write c g v) :=
  Value.fold_of_all (fun _ hw => ⟨fun _ tag hr => noDefect_writeElement hw hr tag,
    fun _ tag hr => noDefect_writeInside hw hr tag⟩) v

theorem noDefect_toElement {r : g.Ref} (hr : Covers g c.writers r) (v tag : Value)
    {members : Option (List (Member g.size))} (hm : ∀ ms ∈ members, ms ⊆ (g.shape r).members) :
    NoDefect (toElement c g v r tag members) := by
  rw [toElement]
  split
  · rename_i all form
    have hall : (g.shape r).members = all := by rw [Shape.members, form]
    refine noDefect_writeMembers (Value.all_view noDefect_write v) (fun m hmem => ?_) tag
    refine hr.member form ?_
    cases members with
    | none => exact hmem
    | some ms => exact hall ▸ hm ms rfl hmem
  · exact .bind (Codec.noDefect_needWriter hr.self) fun _ => (noDefect_write v).element _ _ hr

theorem noDefect_encode {r : g.Ref} (hr : Covers g c.writers r) (v root : Value)
    {members : Option (List (Member g.size))} (hm : ∀ ms ∈ members, ms ⊆ (g.shape r).members) :
    NoDefect (encode c g v r root members) :=
  .bind (noDefect_toElement hr v _ hm) fun _ => .bind (.mapError _) fun _ => .pure _

/-! ### Reading -/

/-- What reads an element finds no defect for a shape that is covered, as a value or an entry. -/
structure Reads (c : Codec) (g : Graph) (read : Reader g) : Prop where
  value : ∀ r, Covers g c.readers r → (read.value r).NoDefect
  entry : ∀ r, Covers g c.readers r → (read.entry r).NoDefect

theorem noDefect_readBlock {r : g.Ref} (hr : Covers g c.readers r)
    {block : List (Element × Reader g)} (h : ∀ p ∈ block, Reads c g p.2) :
    (readBlock c g r block).NoDefect := by
  cases block with
  | nil => exact .pure none
  | cons first rest =>
    rw [readBlock]
    split
    · rename_i item flattened form
      refine .bind (.ofOutcome (Codec.noDefect_needReader (hr.item form).self)) fun _ => ?_
      exact .bind (.mapM fun p hp => (h p hp).value _ (hr.item form)) fun vs => .pure _
    · exact .bind (.mapM fun p hp => (h p hp).entry _ hr) fun entries => .pure _
    · refine .bind (.ofOutcome (Codec.noDefect_needReader hr.self)) fun _ => ?_
      exact .bind ((h first (List.mem_cons_self ..)).value _ hr) fun v => .pure _

theorem noDefect_readMember {elements : List (Element × Reader g)}
    (h : ∀ p ∈ elements, Reads c g p.2) {m : Member g.size} (hm : Covers g c.readers m.shape)
    (attributes : List (Value × Value)) (taken : List Value) :
    (readMember c g elements attributes taken m).NoDefect := by
  rw [readMember]
  split
  · refine .bind (.ofConversion _) fun name => ?_
    split
    · exact .pure none
    · exact .ofConversion _
  · refine .bind (.ofConversion _) fun name => noDefect_readBlock hm fun p hp => ?_
    exact h p (List.mem_of_mem_filter (List.mem_of_mem_filter hp))

theorem noDefect_readEach {elements : List (Element × Reader g)}
    (h : ∀ p ∈ elements, Reads c g p.2) (attributes : List (Value × Value))
    {members : List (Member g.size)} (hm : ∀ m ∈ members, Covers g c.readers m.shape)
    (taken : List Value) (values : List (String × Value)) :
    (readEach c g elements attributes members taken values).NoDefect := by
  induction members generalizing taken values with
  | nil => exact .pure values
  | cons m rest ih =>
    rw [readEach]
    refine .bind (noDefect_readMember h (hm m (List.mem_cons_self ..)) _ _) fun v? => ?_
    exact ih (fun m' hm' => hm m' (List.mem_cons_of_mem _ hm')) _ _

theorem noDefect_readMembers {elements : List (Element × Reader g)}
    (h : ∀ p ∈ elements, Reads c g p.2) (s : Shape g.size) {members : List (Member g.size)}
    (hm : ∀ m ∈ members, Covers g c.readers m.shape) (attributes : List (Value × Value)) :
    (readMembers c g s members elements attributes).NoDefect := by
  refine .bind (noDefect_readEach h attributes hm [] []) fun values => ?_
  exact .bind (JsonBody.noDefect_noteUnknown _ _) fun _ => .pure values

theorem noDefect_readEntry {w : Element.View (Reader g)} (hw : ∀ p ∈ w.children, Reads c g p.2)
    {r : g.Ref} (hr : Covers g c.readers r) : (readEntry c g w r).NoDefect := by
  rw [readEntry]
  split
  · exact .failure _
  · split
    · rename_i e read key value hentry form
      have hread : Reads c g read := by
        rw [entryValue?] at hentry
        split at hentry
        · cases hentry
        · exact hw _ (List.mem_of_mem_filter (List.mem_of_getLast? hentry))
      refine .bind (.ofOutcome (Codec.noDefect_needReader (hr.value form).self)) fun _ => ?_
      exact .bind (hread.value _ (hr.value form)) fun v => .pure _
    · exact .pure _

theorem noDefect_readValue {w : Element.View (Reader g)} (hw : ∀ p ∈ w.children, Reads c g p.2)
    {r : g.Ref} (hr : Covers g c.readers r) : (readValue c g w r).NoDefect := by
  rw [readValue]
  split
  · rename_i members form
    refine .bind (noDefect_readMembers hw _ (fun m hm => hr.member form hm) _) fun values => ?_
    exact .ofConversion _
  · rename_i item form
    refine .bind (.ofOutcome (Codec.noDefect_needReader (hr.item form).self)) fun _ => ?_
    exact .bind (.mapM fun p hp => (hw p hp).value _ (hr.item form)) fun vs => .pure _
  · exact .bind (.mapM fun p hp => (hw p hp).entry _ hr) fun entries => .pure _
  · exact .ofConversion _

theorem noDefect_read (e : Element) : Reads c g (read c g e) :=
  Element.fold_of_all
    (fun _ hw => ⟨fun _ hr => noDefect_readValue hw hr, fun _ hr => noDefect_readEntry hw hr⟩) e

theorem noDefect_readSome {r : g.Ref} {members : List (Member g.size)}
    (h : ∀ m ∈ members, Covers g c.readers m.shape) (elements : List Element)
    (attributes : List (Value × Value)) :
    (readSome c g r members elements attributes).NoDefect := by
  refine noDefect_readMembers (fun p hp => ?_) _ h attributes
  obtain ⟨e, -, rfl⟩ := List.mem_map.mp hp
  exact noDefect_read e

theorem noDefect_ofElement {r : g.Ref} (hr : Covers g c.readers r) (e : Element) :
    (ofElement c g e r).NoDefect :=
  .bind (.ofOutcome (Codec.noDefect_needReader hr.self)) fun _ => (noDefect_read e).value r hr

end ServiceWire.XmlBody
