import ServiceWire.Proofs.Codec.Success
import ServiceWire.Proofs.Codec.Coverage
import ServiceWire.Proofs.Entries
import ServiceWire.Stream.Union

/-!
# Standard handlers

The standard handlers of a union are one for each event. Their shapes have been checked against the
codec, so that no frame brings a defect of the configuration to light, if the codec reads at all.
-/

namespace ServiceWire

variable {c : Codec} {g : Graph}

namespace EventHandler

/-! ### Reading frames -/

theorem noDefect_readDocument {r : g.Ref} (h : Covers g c.readers r) (payload : Value) :
    (readDocument c g payload r).NoDefect := by
  rw [readDocument]
  split
  · exact .bind (.ofConversion _) fun e => XmlBody.noDefect_ofElement h e
  · exact JsonBody.noDefect_decode h payload

theorem noDefect_readMembers {r : g.Ref} (h : Covers g c.readers r) (payload : Value) :
    (readMembers c g payload r).NoDefect := by
  have hbody : ∀ m ∈ (g.shape r).bodyMembers, Covers g c.readers m.shape :=
    fun m hm => h.of_mem_members (List.mem_of_mem_filter hm)
  rw [readMembers]
  split
  · exact .bind (.ofConversion _) fun e => XmlBody.noDefect_readSome hbody _ _
  · refine .bind (.ofConversion _) fun text => .bind (.ofConversion _) fun d => ?_
    exact JsonBody.noDefect_readSome hbody d

theorem noDefect_readPayload {r : g.Ref} (h : Covers g c.readers r) (payload : Value) :
    (readPayload c g payload r).NoDefect := by
  rw [readPayload]
  split
  · rename_i m hm
    split
    · exact .bind (.ofConversion _) fun data => .pure _
    · exact .bind (.ofConversion _) fun text => .pure _
    · split
      · exact .pure []
      · have hcovers := h.of_mem_members (List.mem_of_find?_eq_some hm)
        exact .bind (noDefect_readDocument hcovers payload) fun v => .pure _
  · split
    · exact .pure []
    · exact noDefect_readMembers h payload

theorem noDefect_readFrame {r : g.Ref} (h : Covers g c.readers r) (f : Frame) :
    (readFrame c g r f).NoDefect :=
  .bind (.ofConversion _) fun _ => .bind (noDefect_readPayload h _) fun _ => .ofConversion _

/-! ### Handlers of a union -/

/-- A standard handler of a member, with a shape whose frames can be read if the codec reads at
all. -/
def IsStandard (c : Codec) (g : Graph) (contentType : Value) (m : Member g.size)
    (h : EventHandler g) : Prop :=
  h = standard c g m.name m.shape contentType ∧ (c.readers ≠ [] → Covers g c.readers m.shape)

theorem covers_of_checkShape (hc : c.readers ≠ []) {r : g.Ref} (h : c.checkShape g r = .ok ()) :
    Covers g c.readers r := by
  have hreads : c.readers.isEmpty = false := by
    rwa [List.isEmpty_eq_false_iff]
  have hreadable : c.checkReadable g r = .ok () := by
    rw [Codec.checkShape, hreads] at h
    cases hw : c.checkWritable g r with
    | error d =>
      rw [hw] at h
      cases h
    | ok _ =>
      rw [hw] at h
      exact h
  exact (Codec.check_eq_ok_iff _ _).mp hreadable

/-- The standard handlers of a union stand under the names of its events; their shapes are ones
that the codec handles. -/
theorem eq_of_standardFor {union : g.Ref} {contentType : Value} {handlers : List (EventHandler g)}
    (h : standardFor c g union contentType = .ok handlers) :
    handlers = (Entries.ofPairs ((g.members union).map fun m =>
        (m.name, standard c g m.name m.shape contentType))).map Prod.snd ∧
      ∀ m ∈ g.members union, c.checkShape g m.shape = .ok () := by
  obtain ⟨pairs, hpairs, hhandlers⟩ := exists_of_bind h
  refine ⟨?_, fun m hm => ?_⟩
  · rw [map_eq_map_of_mapM (k := id) (fun m p hp => ?_) hpairs, List.map_id,
      Except.ok.inj hhandlers]
    obtain ⟨_, -, hp⟩ := exists_of_bind hp
    exact Except.ok.inj hp
  · obtain ⟨p, hp⟩ := exists_of_mapM hpairs hm
    obtain ⟨_, hcheck, -⟩ := exists_of_bind hp
    exact hcheck

theorem isStandard_of_mem {union : g.Ref} {contentType : Value}
    {handlers : List (EventHandler g)} (h : standardFor c g union contentType = .ok handlers) :
    ∀ h ∈ handlers, ∃ m ∈ g.members union, IsStandard c g contentType m h := by
  obtain ⟨rfl, hcheck⟩ := eq_of_standardFor h
  intro handler hmem
  obtain ⟨p, hp, rfl⟩ := List.mem_map.mp hmem
  obtain ⟨m, hm, rfl⟩ := List.mem_map.mp (Entries.mem_of_mem_ofPairs hp)
  exact ⟨m, hm, rfl, fun hc => covers_of_checkShape hc (hcheck m hm)⟩

/-- Handlers that stand under their names are found by them. -/
theorem find?_name_eq_lookup {handlers : List (String × EventHandler g)}
    (h : ∀ p ∈ handlers, p.2.name = p.1) (name : String) :
    (handlers.map Prod.snd).find? (fun h => h.name == name) = handlers.lookup name := by
  induction handlers with
  | nil => rfl
  | cons p rest ih =>
    rw [List.map_cons, List.find?_cons, List.lookup_cons, h p (List.mem_cons_self ..),
      BEq.comm, ih fun q hq => h q (List.mem_cons_of_mem _ hq)]

end EventHandler

namespace EventUnion

variable {u : EventUnion g}

/-- A union whose handlers are the standard ones of its events. -/
structure IsStandard (c : Codec) (contentType : Value) (u : EventUnion g) : Prop where
  /-- Each handler is that of an event. -/
  standard : ∀ h ∈ u.handlers, ∃ m ∈ g.members u.shape, EventHandler.IsStandard c g contentType m h
  /-- Each event has a handler. -/
  complete : ∀ m ∈ g.members u.shape, ∃ h ∈ u.handlers, h.name = m.name

/-- A union that could be set up consists of what it was set up with, and each of its events has a
handler. -/
theorem eq_of_create {r : g.Ref} {handlers : List (EventHandler g)} {settings : StreamSettings}
    {operation : Value} (hu : create g r handlers settings operation = .ok u) :
    u = ⟨r, handlers, settings, operation⟩ ∧
      ∀ m ∈ g.members r, ∃ h ∈ handlers, h.name = m.name := by
  rw [create] at hu
  split at hu
  · cases hu
  · split at hu
    · rename_i hcomplete
      refine ⟨(Except.ok.inj hu).symm, fun m hm => ?_⟩
      have hmissing := (Bool.and_eq_true_iff.mp hcomplete).1
      rw [List.isEmpty_iff, List.filter_eq_nil_iff] at hmissing
      have hname := hmissing m.name (List.mem_map_of_mem hm)
      simpa using hname
    · cases hu

theorem shape_of_create {r : g.Ref} {handlers : List (EventHandler g)} {settings : StreamSettings}
    {operation : Value} (hu : create g r handlers settings operation = .ok u) : u.shape = r := by
  rw [(eq_of_create hu).1]

theorem isStandard_of_create {r : g.Ref} {contentType operation : Value}
    {settings : StreamSettings} {handlers : List (EventHandler g)}
    (hhandlers : EventHandler.standardFor c g r contentType = .ok handlers)
    (hu : create g r handlers settings operation = .ok u) : u.IsStandard c contentType := by
  obtain ⟨rfl, hcomplete⟩ := eq_of_create hu
  exact ⟨EventHandler.isStandard_of_mem hhandlers, hcomplete⟩

/-- The member of a union with the name of an event: of several, the last. -/
def variant? (g : Graph) (union : g.Ref) (name : String) : Option (Member g.size) :=
  (g.members union).reverse.find? fun m => m.name == name

/-- The handler of an event is the standard one of its member. -/
theorem dispatch_of_create {union : g.Ref} {contentType operation : Value}
    {settings : StreamSettings} {handlers : List (EventHandler g)}
    (hhandlers : EventHandler.standardFor c g union contentType = .ok handlers)
    (hu : create g union handlers settings operation = .ok u) {name : String} {m : Member g.size}
    (hm : variant? g union name = some m) :
    u.dispatch (.str name) = .ok (.standard c g name m.shape contentType) := by
  obtain ⟨rfl, -⟩ := eq_of_create hu
  obtain ⟨rfl, -⟩ := EventHandler.eq_of_standardFor hhandlers
  rw [variant?] at hm
  have hname := List.find?_some hm
  rw [beq_iff_eq] at hname
  rw [dispatch, handler?, EventHandler.find?_name_eq_lookup, Entries.lookup_ofPairs,
    ← List.map_reverse, Entries.lookup_map, hm, Option.map_some, hname]
  intro p hp
  obtain ⟨m', -, rfl⟩ := List.mem_map.mp (Entries.mem_of_mem_ofPairs hp)
  rfl

end EventUnion

end ServiceWire
