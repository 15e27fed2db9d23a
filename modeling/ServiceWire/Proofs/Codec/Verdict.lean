import ServiceWire.Codec.FormBody
import ServiceWire.Codec.XmlBody
import ServiceWire.Proofs.Codec.Success
import ServiceWire.Proofs.Value.Alike
import Mathlib.Data.List.Basic

/-!
# What all forms of bodies accept

JSON, XML and form bodies are written by three walks over a value: one collects the members of a
structure in a mapping, one makes elements and takes flattened containers apart, one numbers paths
and treats empty lists in a way of its own. What they ask of a value is the same. `check` says what
that is: each present member, each item and each entry passes in its turn, containers are what their
shape says, and a scalar has a text. The verdict of each of the three is that of `check`, the fault
included, so a value that one of them refuses is refused by the others for the same reason.

There is one exception, which `NullFree` leaves out. A null under a key of a map is skipped in a JSON
body, and is a value like any other elsewhere.
-/

namespace ServiceWire

/-! ### Verdicts -/

/-- The verdict of a conversion: that it succeeds, or the fault. What it makes is left out. -/
def verdict {ε α : Type} (x : Except ε α) : Except ε Unit := x.map fun _ => ()

section Verdict

variable {ε α β : Type}

@[simp]
theorem verdict_map (x : Except ε α) (f : α → β) : verdict (x.map f) = verdict x := by
  cases x with
  | error e => rfl
  | ok a => rfl

theorem verdict_mapError (x : Except Failure α) :
    verdict (x.mapError Fault.failure) = (verdict x).mapError .failure := by
  cases x with
  | error e => rfl
  | ok a => rfl

/-- The verdict of two steps, where that of the second does not depend on what the first made. -/
theorem verdict_bind {x : Except ε α} {f : α → Except ε β} {step : Except ε Unit}
    (h : ∀ a, verdict (f a) = step) : verdict (x >>= f) = verdict x >>= fun _ => step := by
  cases x with
  | error e => rfl
  | ok a => exact h a

/-- A step after which nothing can go wrong decides alone. -/
theorem verdict_bind_ok {x : Except ε α} {f : α → Except ε β} (h : ∀ a, ∃ b, f a = .ok b) :
    verdict (x >>= f) = verdict x := by
  cases x with
  | error e => rfl
  | ok a =>
    obtain ⟨b, hb⟩ := h a
    rw [ok_bind, hb]
    rfl

theorem verdict_mapM (f : α → Except ε β) (items : List α) :
    verdict (items.mapM f) = forM items fun a => verdict (f a) := by
  induction items with
  | nil => rfl
  | cons a rest ih =>
    rw [List.mapM_cons, List.forM_cons, ← ih]
    exact verdict_bind fun b => verdict_bind_ok fun bs => ⟨b :: bs, rfl⟩

theorem verdict_foldlM {f : β → α → Except ε β} {step : α → Except ε Unit} {items : List α}
    (h : ∀ a ∈ items, ∀ acc, verdict (f acc a) = step a) (acc : β) :
    verdict (items.foldlM f acc) = forM items step := by
  induction items generalizing acc with
  | nil => rfl
  | cons a rest ih =>
    rw [List.foldlM_cons, List.forM_cons, ← h a (List.mem_cons_self ..) acc]
    exact verdict_bind fun b => ih (fun a' ha' => h a' (List.mem_cons_of_mem _ ha')) b

theorem forM_congr {f f' : α → Except ε Unit} {items : List α} (h : ∀ a ∈ items, f a = f' a) :
    forM items f = forM items f' := by
  induction items with
  | nil => rfl
  | cons a rest ih =>
    rw [List.forM_cons, List.forM_cons, h a (List.mem_cons_self ..),
      ih fun a' ha' => h a' (List.mem_cons_of_mem _ ha')]

theorem forM_map (f : α → β) (step : β → Except ε Unit) (items : List α) :
    forM (items.map f) step = forM items fun a => step (f a) := by
  induction items with
  | nil => rfl
  | cons a rest ih => rw [List.map_cons, List.forM_cons, List.forM_cons, ih]

end Verdict

/-! ### What is asked of a value -/

section Check

variable (g : Graph)

/-- What is asked of the members of a structure that a value has. -/
def checkMembers (members : List (Member g.size)) (w : View (g.Ref → Except Fault Unit)) :
    Except Fault Unit :=
  forM members fun m => match w.member? m.name with
    | none => .ok ()
    | some (_, check) => check m.shape

/-- What is asked of the value of a list. -/
def checkItems (s : Shape g.size) (item : g.Ref) (w : View (g.Ref → Except Fault Unit)) :
    Except Fault Unit :=
  match w.items? with
  | none => .error (.failure (.expectedFor "list" s.name w.whole.typeName))
  | some items => forM items fun p => p.2 item

/-- What is asked of an entry of a mapping. -/
def checkEntry (value : g.Ref) (p : Value × Value × (g.Ref → Except Fault Unit)) :
    Except Fault Unit := do
  (verdict (Scalar.string p.1)).mapError .failure
  p.2.2 value

/-- What is asked of the value of a map. -/
def checkEntries (s : Shape g.size) (value : g.Ref) (w : View (g.Ref → Except Fault Unit)) :
    Except Fault Unit :=
  match w.entries? with
  | none => .error (.failure (.expectedFor "mapping" s.name w.whole.typeName))
  | some entries => forM entries (checkEntry g value)

/-- What is asked of a value, from what is asked of its parts. -/
def checkView (w : View (g.Ref → Except Fault Unit)) (r : g.Ref) : Except Fault Unit :=
  match (g.shape r).form with
  | .struct members => checkMembers g members w
  | .list item => checkItems g (g.shape r) item w
  | .map _ value => checkEntries g (g.shape r) value w
  | .scalar k => (verdict (Scalar.textOf .iso8601 k w.whole)).mapError .failure

/-- What every form of bodies asks of a value. -/
def check (v : Value) : g.Ref → Except Fault Unit := v.fold (checkView g)

theorem check_eq (v : Value) : check g v = checkView g (v.view (check g)) := Value.fold_eq _ v

/-- No mapping that is given for a map has a null in it, at any depth. -/
inductive NullFree : g.Ref → Value → Prop
  | struct {r : g.Ref} {members : List (Member g.size)} {v : Value}
      (form : (g.shape r).form = .struct members)
      (each : ∀ m ∈ members, ∀ x, v.get? m.name = some x → NullFree m.shape x) : NullFree r v
  | list {r item : g.Ref} {v : Value} (form : (g.shape r).form = .list item)
      (each : ∀ items, v.sequence? = some items → ∀ x ∈ items, NullFree item x) : NullFree r v
  | map {r key value : g.Ref} {v : Value} (form : (g.shape r).form = .map key value)
      (notNull : ∀ entries, v = .dict entries → ∀ p ∈ entries, p.2.isNull = false)
      (each : ∀ entries, v = .dict entries → ∀ p ∈ entries, NullFree value p.2) : NullFree r v
  | scalar {r : g.Ref} {kind : ScalarKind} {v : Value} (form : (g.shape r).form = .scalar kind) :
      NullFree r v

variable {g} in
theorem NullFree.member {r : g.Ref} {v x : Value} (h : NullFree g r v)
    {members : List (Member g.size)} (form : (g.shape r).form = .struct members)
    {m : Member g.size} (hm : m ∈ members) (hx : v.get? m.name = some x) :
    NullFree g m.shape x := by
  cases h with
  | struct form' each =>
    rw [form] at form'
    cases form'
    exact each m hm x hx
  | list form' each => rw [form] at form'; cases form'
  | map form' notNull each => rw [form] at form'; cases form'
  | scalar form' => rw [form] at form'; cases form'

end Check

/-- A codec has writers for all shapes of a graph. -/
def Codec.WritesAll (c : Codec) (g : Graph) : Prop := ∀ r : g.Ref, (g.shape r).kind ∈ c.writers

theorem Codec.WritesAll.needWriter {c : Codec} {g : Graph} (h : c.WritesAll g) (r : g.Ref) :
    c.needWriter (g.shape r) = .ok () := by
  rw [Codec.needWriter, if_pos (List.contains_iff_mem.mpr (h r))]

variable {c : Codec} {g : Graph}

/-! ### Views -/

section Views

theorem items?_view {ρ : Type} (f : Value → ρ) (v : Value) :
    (v.view f).items? = v.sequence?.map fun items => items.map fun x => (x, f x) := rfl

/-- The entries that the views of a mapping show; nothing else shows any. -/
theorem entries?_view (v : Value) :
    (∃ entries, v = .dict entries ∧ ∀ {ρ : Type} (f : Value → ρ),
      (v.view f).entries? = some (entries.map fun p => (p.1, p.2, f p.2))) ∨
    ∀ {ρ : Type} (f : Value → ρ), (v.view f).entries? = none := by
  cases v with
  | dict entries => exact .inl ⟨entries, rfl, fun _ => rfl⟩
  | _ => exact .inr fun _ => rfl

/-- Two views of a value have the same members. -/
theorem member?_view_cases (v : Value) (name : String) :
    (∀ {σ : Type} (f : Value → σ), (v.view f).member? name = none) ∨
    ∃ x, v.get? name = some x ∧ ∀ {σ : Type} (f : Value → σ),
      (v.view f).member? name = some (x, f x) := by
  cases hx : (v.get? name).filter fun x => !x.isNull with
  | none =>
    refine .inl fun f => ?_
    rw [Value.member?_view, hx]
    rfl
  | some x =>
    refine .inr ⟨x, Option.eq_some_of_filter_eq_some hx, fun f => ?_⟩
    rw [Value.member?_view, hx]
    rfl

end Views

/-! ### JSON bodies -/

/-- A scalar has a document if it has a text. -/
theorem Scalar.verdict_toDocument (k : ScalarKind) (v : Value) :
    verdict (toDocument k v) = verdict (textOf .iso8601 k v) := by
  cases k <;> simp only [toDocument, textOf, timestampDocument, verdict_map]

namespace JsonBody

theorem verdict_writeMembers (hc : c.WritesAll g) {members : List (Member g.size)} {v : Value}
    (names : ∀ m ∈ members, m.wireName.isKey = true)
    (h : ∀ m ∈ members, ∀ x, v.get? m.name = some x →
      verdict (write c g x m.shape) = check g x m.shape) :
    verdict (writeMembers c g members (v.view (write c g))) =
      checkMembers g members (v.view (check g)) := by
  rw [writeMembers, verdict_map, checkMembers]
  refine verdict_foldlM (fun m hm entries => ?_) []
  rcases member?_view_cases v m.name with hnone | ⟨x, hx, hsome⟩
  · rw [writeMember, hnone, hnone]
    rfl
  · have hkey : m.wireName.asKey = .ok m.wireName := by rw [Value.asKey, if_pos (names m hm)]
    rw [writeMember, hsome, hsome]
    simp only [hc.needWriter, ok_bind, hkey]
    exact (verdict_bind_ok fun d => ⟨_, rfl⟩).trans (h m hm x hx)

theorem verdict_writeEntry {value : g.Ref} {p : Value × Value}
    (h : verdict (write c g p.2 value) = check g p.2 value) :
    verdict (writeEntry g value (p.1, p.2, write c g p.2)) =
      checkEntry g value (p.1, p.2, check g p.2) := by
  rw [writeEntry, checkEntry, ← verdict_mapError]
  exact verdict_bind fun key => (verdict_bind_ok fun d => ⟨_, rfl⟩).trans h

/-- A value is written in a JSON body if and only if it passes, unless a null is skipped. -/
theorem verdict_write (hc : c.WritesAll g)
    (names : ∀ r : g.Ref, ∀ m ∈ g.members r, m.wireName.isKey = true) {r : g.Ref} {v : Value}
    (h : NullFree g r v) : verdict (write c g v r) = check g v r := by
  induction h with
  | @struct r members v form each ih =>
    rw [write_eq, check_eq, writeView, checkView]
    simp only [form]
    refine verdict_writeMembers hc (fun m hm => names r m ?_) ih
    rwa [Graph.members, Shape.members, form]
  | @list r item v form each ih =>
    rw [write_eq, check_eq, writeView, checkView]
    simp only [form, checkItems, items?_view]
    cases hv : v.sequence? with
    | none => rfl
    | some items =>
      simp only [Option.map_some, hc.needWriter, ok_bind]
      refine (verdict_bind_ok fun ds => ⟨_, rfl⟩).trans ?_
      rw [verdict_mapM, forM_map, forM_map]
      exact forM_congr fun x hx => ih items hv x hx
  | @map r key value v form notNull each ih =>
    rw [write_eq, check_eq, writeView, checkView]
    simp only [form, checkEntries]
    rcases entries?_view v with ⟨entries, rfl, hentries⟩ | hentries
    · have hall : (entries.map fun p => (p.1, p.2, write c g p.2)).filter
          (fun p => !p.2.1.isNull) = entries.map fun p => (p.1, p.2, write c g p.2) :=
        filter_map_eq_map fun p hp => by simp only [notNull entries rfl p hp, Bool.not_false]
      simp only [hentries, hc.needWriter, ok_bind]
      refine (verdict_bind_ok fun ds => ⟨_, rfl⟩).trans ?_
      rw [hall, verdict_mapM, forM_map, forM_map]
      exact forM_congr fun p hp => verdict_writeEntry (ih entries rfl p hp)
    · simp only [hentries]
      rfl
  | scalar form =>
    rw [write_eq, check_eq, writeView, checkView]
    simp only [form]
    rw [verdict_mapError, Scalar.verdict_toDocument]
    rfl

end JsonBody

/-! ### XML bodies -/

namespace XmlBody

open ServiceWire.Xml (Element)

theorem verdict_writeMembers {members : List (Member g.size)} {tag v : Value}
    (plain : ∀ m ∈ members, m.xmlAttribute = false)
    (h : ∀ m ∈ members, ∀ x, v.get? m.name = some x →
      ∀ tag, verdict ((write c g x).inside m.shape tag) = check g x m.shape) :
    verdict (writeMembers g members tag (v.view (write c g))) =
      checkMembers g members (v.view (check g)) := by
  rw [writeMembers, verdict_map, checkMembers]
  refine verdict_foldlM (fun m hm acc => ?_) ([], [])
  rcases member?_view_cases v m.name with hnone | ⟨x, hx, hsome⟩
  · rw [writeMember, hnone, hnone]
    rfl
  · rw [writeMember, hsome, hsome]
    simp only [plain m hm, Bool.false_eq_true, if_false]
    exact (verdict_bind_ok fun es => ⟨_, rfl⟩).trans (h m hm x hx m.wireName)

/-- The items of a list, however each is written, if one is written only if it passes. -/
theorem verdict_mapM_items {s : Shape g.size} {item : g.Ref} {v : Value}
    {f : Value × Writing g → Except Fault Element}
    (h : ∀ items, v.sequence? = some items → ∀ x ∈ items,
      verdict (f (x, write c g x)) = check g x item) :
    verdict (itemsFor g s (v.view (write c g)) >>= fun items => items.mapM f) =
      checkItems g s item (v.view (check g)) := by
  rw [itemsFor, checkItems]
  simp only [items?_view]
  cases hv : v.sequence? with
  | none => rfl
  | some items =>
    simp only [Option.map_some, ok_bind]
    rw [verdict_mapM, forM_map, forM_map]
    exact forM_congr fun x hx => h items hv x hx

theorem verdict_writeEntry (hc : c.WritesAll g) {s : Shape g.size} {value : g.Ref} {tag : Value}
    {p : Value × Value}
    (h : ∀ tag, verdict ((write c g p.2).element value tag) = check g p.2 value) :
    verdict (writeEntry c g s value tag (p.1, p.2, write c g p.2)) =
      checkEntry g value (p.1, p.2, check g p.2) := by
  rw [writeEntry, checkEntry, ← verdict_mapError]
  refine verdict_bind fun key => ?_
  rw [hc.needWriter, ok_bind]
  exact (verdict_bind_ok fun e => ⟨_, rfl⟩).trans (h s.valueTag)

theorem verdict_mapM_entries (hc : c.WritesAll g) {s : Shape g.size} {value : g.Ref}
    {v : Value} (tag : Value)
    (h : ∀ entries, v = .dict entries → ∀ p ∈ entries, ∀ tag,
      verdict ((write c g p.2).element value tag) = check g p.2 value) :
    verdict (entriesFor g s (v.view (write c g)) >>= fun entries =>
      entries.mapM (writeEntry c g s value tag)) =
      checkEntries g s value (v.view (check g)) := by
  rw [entriesFor, checkEntries]
  rcases entries?_view v with ⟨entries, rfl, hentries⟩ | hentries
  · simp only [hentries, ok_bind]
    rw [verdict_mapM, forM_map, forM_map]
    exact forM_congr fun p hp => verdict_writeEntry hc (h entries rfl p hp)
  · simp only [hentries]
    rfl

/-- What stands inside a structure is written if and only if the element is: only containers are
taken apart, and their items and entries are written either way. -/
theorem verdict_inside (hc : c.WritesAll g) {r : g.Ref} {v : Value}
    (element : ∀ tag, verdict ((write c g v).element r tag) = check g v r)
    (items : ∀ item, (g.shape r).form = .list item → ∀ items, v.sequence? = some items →
      ∀ x ∈ items, ∀ tag, verdict ((write c g x).element item tag) = check g x item)
    (entries : ∀ key value, (g.shape r).form = .map key value → ∀ entries, v = .dict entries →
      ∀ p ∈ entries, ∀ tag, verdict ((write c g p.2).element value tag) = check g p.2 value)
    (tag : Value) : verdict ((write c g v).inside r tag) = check g v r := by
  rw [inside_eq, writeInside]
  split
  · rename_i item hflat hform
    rw [check_eq, checkView, hform]
    refine verdict_mapM_items fun xs hxs x hx => ?_
    rw [hc.needWriter, ok_bind]
    exact items item hform xs hxs x hx tag
  · rename_i key value hflat hform
    rw [check_eq, checkView, hform]
    exact verdict_mapM_entries hc tag (entries key value hform)
  · rw [hc.needWriter, ok_bind, ← element tag, write_eq]
    exact verdict_bind_ok fun e => ⟨_, rfl⟩

/-- A value is written in an XML body if and only if it passes, as an element and inside one: in a
structure stands what is below an element, so both are needed of the parts. -/
theorem verdict_write (hc : c.WritesAll g)
    (plain : ∀ r : g.Ref, ∀ m ∈ g.members r, m.xmlAttribute = false) {r : g.Ref} {v : Value}
    (h : NullFree g r v) :
    (∀ tag, verdict ((write c g v).element r tag) = check g v r) ∧
      ∀ tag, verdict ((write c g v).inside r tag) = check g v r := by
  induction h with
  | @struct r members v form each ih =>
    have helement : ∀ tag, verdict ((write c g v).element r tag) = check g v r := fun tag => by
      rw [element_eq, check_eq, writeElement, checkView]
      simp only [form]
      refine verdict_writeMembers (fun m hm => plain r m ?_) fun m hm x hx => (ih m hm x hx).2
      rwa [Graph.members, Shape.members, form]
    refine ⟨helement, verdict_inside hc helement ?_ ?_⟩ <;> simp [form]
  | @list r item v form each ih =>
    have helement : ∀ tag, verdict ((write c g v).element r tag) = check g v r := fun tag => by
      rw [element_eq, check_eq, writeElement, checkView]
      simp only [form, hc.needWriter, ok_bind]
      rw [← verdict_mapM_items (f := fun p => p.2.element item (g.shape r).itemTag)
        fun items hv x hx => (ih items hv x hx).1 (g.shape r).itemTag]
      cases itemsFor g (g.shape r) (v.view (write c g)) with
      | error e => rfl
      | ok items => exact verdict_bind_ok fun es => ⟨_, rfl⟩
    refine ⟨helement, verdict_inside hc helement (fun item' hitem items hv x hx => ?_) ?_⟩
    · rw [form] at hitem
      cases hitem
      exact (ih items hv x hx).1
    · simp [form]
  | @map r key value v form notNull each ih =>
    have helement : ∀ tag, verdict ((write c g v).element r tag) = check g v r := fun tag => by
      rw [element_eq, check_eq, writeElement, checkView]
      simp only [form]
      rw [← verdict_mapM_entries hc (.str "entry") fun entries hv p hp => (ih entries hv p hp).1]
      cases entriesFor g (g.shape r) (v.view (write c g)) with
      | error e => rfl
      | ok entries => exact verdict_bind_ok fun es => ⟨_, rfl⟩
    refine ⟨helement, verdict_inside hc helement ?_ fun key' value' hmap entries hv p hp => ?_⟩
    · simp [form]
    · rw [form] at hmap
      cases hmap
      exact (ih entries hv p hp).1
  | @scalar r kind v form =>
    have helement : ∀ tag, verdict ((write c g v).element r tag) = check g v r := fun tag => by
      rw [element_eq, check_eq, writeElement, checkView]
      simp only [form]
      rw [verdict_map, verdict_mapError]
      rfl
    refine ⟨helement, verdict_inside hc helement ?_ ?_⟩ <;> simp [form]

end XmlBody

/-! ### Form bodies -/

namespace FormBody

theorem verdict_writeMembers (hc : c.WritesAll g) {members : List (Member g.size)}
    {path v : Value}
    (h : ∀ m ∈ members, ∀ x, v.get? m.name = some x →
      ∀ path, verdict (write c g x m.shape path) = check g x m.shape) :
    verdict (writeMembers c g members path (v.view (write c g))) =
      checkMembers g members (v.view (check g)) := by
  rw [writeMembers, verdict_map, verdict_mapM, checkMembers]
  refine forM_congr fun m hm => ?_
  rcases member?_view_cases v m.name with hnone | ⟨x, hx, hsome⟩
  · rw [writeMember, hnone, hnone]
    rfl
  · rw [writeMember, hsome, hsome]
    simp only [hc.needWriter, ok_bind]
    exact h m hm x hx _

theorem verdict_writeItems {item : g.Ref} {items : List Value}
    (h : ∀ x ∈ items, ∀ path, verdict (write c g x item path) = check g x item) (path : Value)
    (i : Nat) :
    verdict (writeItems g item path i (items.map fun x => (x, write c g x))) =
      forM items fun x => check g x item := by
  induction items generalizing i with
  | nil => rfl
  | cons x rest ih =>
    rw [List.map_cons, writeItems, List.forM_cons, ← h x (List.mem_cons_self ..) (numbered path i)]
    refine verdict_bind fun first => ?_
    exact (verdict_bind_ok fun others => ⟨_, rfl⟩).trans
      (ih (fun y hy => h y (List.mem_cons_of_mem _ hy)) (i + 1))

theorem verdict_writeEntries {s : Shape g.size} {value : g.Ref} {entries : List (Value × Value)}
    (h : ∀ p ∈ entries, ∀ path, verdict (write c g p.2 value path) = check g p.2 value)
    (path : Value) (i : Nat) :
    verdict (writeEntries g s value path i (entries.map fun p => (p.1, p.2, write c g p.2))) =
      forM entries fun p => checkEntry g value (p.1, p.2, check g p.2) := by
  induction entries generalizing i with
  | nil => rfl
  | cons p rest ih =>
    rw [List.map_cons, writeEntries, List.forM_cons, checkEntry, bind_assoc, ← verdict_mapError]
    refine verdict_bind fun key => ?_
    refine (verdict_bind fun first => ?_).trans (congrArg (· >>= _)
      (h p (List.mem_cons_self ..) (extend (numbered path i) s.valueTag)))
    exact (verdict_bind_ok fun others => ⟨_, rfl⟩).trans
      (ih (fun q hq => h q (List.mem_cons_of_mem _ hq)) (i + 1))

/-- A value is written in a form if and only if it passes, wherever it is written. -/
theorem verdict_write (hc : c.WritesAll g) {r : g.Ref} {v : Value} (h : NullFree g r v)
    (path : Value) : verdict (write c g v r path) = check g v r := by
  induction h generalizing path with
  | @struct r members v form each ih =>
    rw [write_eq, check_eq, writeView, checkView]
    simp only [form]
    exact verdict_writeMembers hc ih
  | @list r item v form each ih =>
    rw [write_eq, check_eq, writeView, checkView]
    simp only [form, checkItems, items?_view]
    cases hv : v.sequence? with
    | none => rfl
    | some items =>
      cases items with
      | nil => rfl
      | cons x rest =>
        simp only [Option.map_some, List.map_cons, hc.needWriter, ok_bind]
        rw [← List.map_cons (f := fun y => (y, write c g y)),
          ← List.map_cons (f := fun y => (y, check g y)), verdict_writeItems, forM_map]
        exact fun y hy path => ih (x :: rest) hv y hy path
  | @map r key value v form notNull each ih =>
    rw [write_eq, check_eq, writeView, checkView]
    simp only [form, checkEntries]
    rcases entries?_view v with ⟨entries, rfl, hentries⟩ | hentries
    · simp only [hentries, hc.needWriter, ok_bind]
      rw [verdict_writeEntries, forM_map]
      exact fun p hp path => ih entries rfl p hp path
    · simp only [hentries]
      rfl
  | scalar form =>
    rw [write_eq, check_eq, writeView, checkView]
    simp only [form]
    rw [verdict_map, verdict_mapError]
    rfl

end FormBody

/-! ### Whole bodies -/

/-- What every form of bodies asks of a whole value; of a structure, only some members may be
asked for. -/
def checkWhole (g : Graph) (v : Value) (r : g.Ref) (members : Option (List (Member g.size))) :
    Except Fault Unit :=
  match (g.shape r).form with
  | .struct all => checkMembers g (members.getD all) (v.view (check g))
  | _ => check g v r

section Whole

variable {r : g.Ref} {v : Value} {members : Option (List (Member g.size))}

/-- The members that are asked for are members of the structure. -/
def OfStructure (g : Graph) (r : g.Ref) (members : Option (List (Member g.size))) : Prop :=
  ∀ chosen ∈ members, chosen ⊆ g.members r

theorem OfStructure.mem (h : OfStructure g r members) {all : List (Member g.size)}
    (form : (g.shape r).form = .struct all) {m : Member g.size} (hm : m ∈ members.getD all) :
    m ∈ all := by
  cases members with
  | none => exact hm
  | some chosen =>
    have hmem := h chosen rfl hm
    rwa [Graph.members, Shape.members, form] at hmem

theorem JsonBody.verdict_toDocument (hc : c.WritesAll g)
    (names : ∀ r : g.Ref, ∀ m ∈ g.members r, m.wireName.isKey = true)
    (hm : OfStructure g r members) (h : NullFree g r v) :
    verdict (toDocument c g v r members) = checkWhole g v r members := by
  rw [toDocument, checkWhole]
  cases form : (g.shape r).form with
  | struct all =>
    refine verdict_writeMembers hc (fun m hmem => names r m ?_) fun m hmem x hx =>
      verdict_write hc names (h.member form (hm.mem form hmem) hx)
    rw [Graph.members, Shape.members, form]
    exact hm.mem form hmem
  | _ =>
    simp only [hc.needWriter, ok_bind]
    exact verdict_write hc names h

theorem XmlBody.verdict_toElement (hc : c.WritesAll g)
    (plain : ∀ r : g.Ref, ∀ m ∈ g.members r, m.xmlAttribute = false)
    (hm : OfStructure g r members) (h : NullFree g r v) (tag : Value) :
    verdict (toElement c g v r tag members) = checkWhole g v r members := by
  rw [toElement, checkWhole]
  cases form : (g.shape r).form with
  | struct all =>
    refine verdict_writeMembers (fun m hmem => plain r m ?_) fun m hmem x hx =>
      (verdict_write hc plain (h.member form (hm.mem form hmem) hx)).2
    rw [Graph.members, Shape.members, form]
    exact hm.mem form hmem
  | _ =>
    simp only [hc.needWriter, ok_bind]
    exact (verdict_write hc plain h).1 tag

theorem FormBody.verdict_toParams (hc : c.WritesAll g) (hm : OfStructure g r members)
    (h : NullFree g r v) (path : Value) :
    verdict (toParams c g v r path members) = checkWhole g v r members := by
  rw [toParams, checkWhole]
  cases form : (g.shape r).form with
  | struct all =>
    exact verdict_writeMembers hc fun m hmem x hx path =>
      verdict_write hc (h.member form (hm.mem form hmem) hx) path
  | _ =>
    simp only [hc.needWriter, ok_bind]
    exact verdict_write hc h path

end Whole

/-- A value without nulls in its maps has a document if and only if it has an element and if and
only if it has parameters. If it has none, the fault is the same in all three forms. -/
theorem verdict_eq_of_nullFree (json xml form : Codec) (g : Graph) (hjson : json.WritesAll g)
    (hxml : xml.WritesAll g) (hform : form.WritesAll g)
    (names : ∀ r : g.Ref, ∀ m ∈ g.members r, m.wireName.isKey = true)
    (plain : ∀ r : g.Ref, ∀ m ∈ g.members r, m.xmlAttribute = false) (r : g.Ref) (v : Value)
    (h : NullFree g r v) (members : Option (List (Member g.size)))
    (hm : OfStructure g r members) (tag path : Value) :
    verdict (JsonBody.toDocument json g v r members) =
        verdict (XmlBody.toElement xml g v r tag members) ∧
      verdict (XmlBody.toElement xml g v r tag members) =
        verdict (FormBody.toParams form g v r path members) := by
  rw [JsonBody.verdict_toDocument hjson names hm h, XmlBody.verdict_toElement hxml plain hm h tag,
    FormBody.verdict_toParams hform hm h path]
  exact ⟨rfl, rfl⟩

/-- The numerals that name four shapes. -/
local instance fourShapes : NeZero 4 := ⟨by decide⟩

/-- A box whose marks are lists of texts under texts, without an element of their own in XML. -/
def boxes : Graph where
  size := 4
  shapes := #v[
    { name := "Box", form := .struct [{ name := "marks", shape := 1, locationName := .str "m" }] },
    { name := "Marks", form := .map 3 2, flattened := true },
    { name := "Colours", form := .list 3 },
    { name := "Colour", form := .scalar .string }]

/-- A box one of whose marks is a number, which no text stands for. -/
def spoiltBox : Value :=
  .dict [(.str "marks", .dict [(.str "lid", .tuple [.str "red", .int 3])])]

theorem nullFree_spoiltBox : NullFree boxes ⟨0, by decide⟩ spoiltBox := by
  have hcolours : NullFree boxes ⟨2, by decide⟩ (.tuple [.str "red", .int 3]) := by
    refine .list rfl fun items h x hx => ?_
    cases h
    exact .scalar rfl
  have hmarks : NullFree boxes ⟨1, by decide⟩
      (.dict [(.str "lid", .tuple [.str "red", .int 3])]) := by
    refine .map rfl (fun entries h p hp => ?_) fun entries h p hp => ?_
    · cases h
      rw [List.mem_singleton.mp hp]
      rfl
    · cases h
      rw [List.mem_singleton.mp hp]
      exact hcolours
  refine .struct rfl fun m hm x hx => ?_
  rw [List.mem_singleton.mp hm] at hx ⊢
  obtain rfl : _ = x := Option.some.inj hx
  exact hmarks

/-- All three forms refuse a text that is a number, for this reason. -/
theorem verdict_eq_of_nullFree_spoiltBox :
    verdict (JsonBody.toDocument (.complete .json true .null) boxes spoiltBox ⟨0, by decide⟩ none) =
        .error (.failure (.expected "string" "int")) ∧
      verdict (XmlBody.toElement (.complete .xml true .null) boxes spoiltBox ⟨0, by decide⟩
        (.str "Box") none) = .error (.failure (.expected "string" "int")) ∧
      verdict (FormBody.toParams (.complete .query true .null) boxes spoiltBox ⟨0, by decide⟩
        (.str "") none) = .error (.failure (.expected "string" "int")) := by
  have hjson : verdict (JsonBody.toDocument (.complete .json true .null) boxes spoiltBox
      ⟨0, by decide⟩ none) = .error (.failure (.expected "string" "int")) := by
    cbv
  obtain ⟨hxml, hform⟩ := verdict_eq_of_nullFree (.complete .json true .null)
    (.complete .xml true .null) (.complete .query true .null) boxes
    (fun r => ShapeKind.mem_all _) (fun r => ShapeKind.mem_all _) (fun r => ShapeKind.mem_all _)
    (by decide) (by decide) ⟨0, by decide⟩ spoiltBox nullFree_spoiltBox none
    (fun chosen h => by cases h) (.str "Box") (.str "")
  exact ⟨hjson, hxml.symm.trans hjson, hform.symm.trans (hxml.symm.trans hjson)⟩

/-- A null under a key of a map is skipped in a document alone. -/
example : verdict (JsonBody.toDocument (.complete .json true .null) boxes
      (.dict [(.str "marks", .dict [(.str "lid", .null)])]) ⟨0, by decide⟩ none) = .ok () ∧
    verdict (XmlBody.toElement (.complete .xml true .null) boxes
      (.dict [(.str "marks", .dict [(.str "lid", .null)])]) ⟨0, by decide⟩ (.str "Box") none) =
      .error (.failure (.expectedFor "list" "Colours" "NoneType")) := by
  constructor <;> cbv

end ServiceWire
