import ServiceWire.Operation.ResponseReader
import ServiceWire.Proofs.Codec.Success
import ServiceWire.Proofs.Entries
import ServiceWire.Proofs.Shape.WellTyped

/-!
# Responses that are read

A response is read in two parts. First each member that has a place of its own outside the document
is read from it; what is read of one member does not depend on the others. Then the document has the
members that are left, unless a member took the whole body. The value of the response is what is
read in the first part, followed by what is read in the second.
-/

namespace ServiceWire.ResponseReader

variable {g : Graph} {u : ResponseReader} {response : Http.Response}

section Members

variable {early : Member g.size → Option Value} {takes : Member g.size → Bool}
  {members : List (Member g.size)}
  (step : ∀ m ∈ members, ∀ values taken, u.readMember ⟨values, taken, response⟩ m =
    pure ⟨Entries.putAll values ((early m).toList.map fun x => (m.name, x)), taken || takes m,
      response⟩)

include step

theorem foldlM_readMember_from {values : List (String × Value)} {taken : Bool}
    (names : (values.map Prod.fst ++ members.map Member.name).Nodup) :
    members.foldlM u.readMember ⟨values, taken, response⟩ =
      pure ⟨values ++ members.filterMap fun m => (early m).map fun x => (m.name, x),
        taken || members.any takes, response⟩ := by
  induction members generalizing values taken with
  | nil => rw [List.foldlM_nil, List.filterMap_nil, List.append_nil, List.any_nil, Bool.or_false]
  | cons m rest ih =>
    have hrest := fun m' hm' => step m' (List.mem_cons_of_mem m hm')
    rw [List.map_cons] at names
    rw [List.foldlM_cons, step m (List.mem_cons_self ..), pure_bind, List.filterMap_cons,
      List.any_cons, ← Bool.or_assoc]
    cases hearly : early m with
    | none =>
      exact ih hrest (names.sublist (List.Sublist.append_left (List.sublist_cons_self ..) _))
    | some x =>
      have hput : Entries.putAll values ((some x).toList.map fun x => (m.name, x)) =
          values ++ [(m.name, x)] := by
        refine Entries.putAll_eq_append (names.sublist (List.Sublist.append_left ?_ _))
        exact (List.nil_sublist _).cons_cons m.name
      rw [hput, ih hrest, List.append_assoc]
      · rfl
      · rw [List.map_append, List.append_assoc]
        exact names

/-- The members that have a place outside the document are read from the response, in their order,
if each of them is, and the response stays as it is. -/
theorem foldlM_readMember (names : (members.map Member.name).Nodup) :
    members.foldlM u.readMember { response := response } =
      pure ⟨members.filterMap fun m => (early m).map fun x => (m.name, x), members.any takes,
        response⟩ :=
  foldlM_readMember_from step names

end Members

/-- Nothing is taken for a stream that was read if the response stays as it is. -/
theorem settled_self (values : List (String × Value)) (taken : Bool) :
    (⟨values, taken, response⟩ : Progress).settled response = values := by
  rw [Progress.settled]
  split
  · rename_i hstream hbytes
    rw [hstream] at hbytes
    cases hbytes
  · rfl

/-- The value of a response has what is read outside the document, and then what is read of the
document, unless a member took the whole body or no member is left. -/
theorem read_of_parts {format : BodyFormat} {notes : Bool} {ns : Value}
    (codec : u.codec = .complete format notes ns) (hformat : format ≠ .query) {r : g.Ref}
    (construct : (g.shape r).construct = none) {values more : List (String × Value)} {taken : Bool}
    (hmembers : (g.members r).foldlM u.readMember { response := response } =
      pure ⟨values, taken, response⟩)
    (names : (values.map Prod.fst ++ more.map Prod.fst).Nodup)
    (hnone : (taken || (g.shape r).bodyMembers.isEmpty) = true → more = [])
    (hbody : (taken || (g.shape r).bodyMembers.isEmpty) = false →
      ∃ content, response.read.1 = .ok content ∧ isBlank content = false ∧
        (u.readBody content r (g.shape r).bodyMembers).outcome = .ok more) :
    (u.read response (some r)).result = .ok (.ofFields (values ++ more)) := by
  have hstructure : (u.readStructure response r).outcome = .ok (.ofFields (values ++ more)) := by
    rw [Graph.members] at hmembers
    rw [readStructure]
    simp only [hmembers, pure_bind, settled_self, Shape.build, construct, Reading.ofConversion_ok]
    cases hrest : taken || (g.shape r).bodyMembers.isEmpty with
    | true =>
      rw [hnone hrest, List.append_nil]
      rfl
    | false =>
      obtain ⟨content, hcontent, notBlank, hread⟩ := hbody hrest
      simp only [hcontent, Reading.ofConversion_ok, pure_bind, notBlank, Bool.false_eq_true,
        if_false]
      rw [Reading.outcome_bind_of_ok hread, Entries.putAll_eq_append names]
      rfl
  rw [read]
  simp only [codec, Codec.checkReadable_complete notes ns hformat]
  simp only [hstructure]

/-! ### Responses without header fields -/

theorem readHeader_empty {m : Member g.size} (text : m.wireName = .str m.wireName.text) :
    readHeader {} m = .ok none := by
  rw [readHeader, text]
  cases hform : (g.shape m.shape).form with
  | struct => rfl
  | list => rfl
  | map => rfl
  | scalar => rfl

theorem payload_of_not_hasPayload {r : g.Ref} (h : (g.shape r).hasPayload = false) :
    ∀ m ∈ g.members r, m.payload = false := by
  intro m hm
  rw [Shape.hasPayload, Option.isSome_eq_false_iff, Option.isNone_iff_eq_none] at h
  simpa using List.find?_eq_none.mp h m hm

theorem streaming_of_not_hasStreamingMember {r : g.Ref} (h : g.hasStreamingMember r = false) :
    ∀ m ∈ g.members r, (g.shape m.shape).streaming = false := by
  intro m hm
  rw [Graph.hasStreamingMember, List.any_eq_false] at h
  simpa using h m hm

theorem bodyMembers_of_not_hasPayload {r : g.Ref} (h : (g.shape r).hasPayload = false) :
    (g.shape r).bodyMembers = (g.members r).filter fun m => m.location == .body := by
  refine List.filter_congr fun m hm => ?_
  rw [payload_of_not_hasPayload h m hm, Bool.not_false, Bool.and_true]

/-- The status in the place of the members that are located there. -/
def statusFields (g : Graph) (r : g.Ref) (status : Value) : List (String × Value) :=
  ((g.members r).filter fun m => m.location == .statusCode).map fun m => (m.name, status)

/-- Where nothing is carried by header fields or the whole body, only the status is read before
the document. -/
theorem foldlM_readMember_status (u : ResponseReader) (status body : Value) {r : g.Ref}
    (texts : ∀ m ∈ g.members r, m.wireName = .str m.wireName.text)
    (names : ((g.members r).map Member.name).Nodup) (payload : (g.shape r).hasPayload = false)
    (streaming : g.hasStreamingMember r = false) :
    (g.members r).foldlM u.readMember { response := ⟨status, {}, body⟩ } =
      pure ⟨statusFields g r status, false, ⟨status, {}, body⟩⟩ := by
  have step : ∀ m ∈ g.members r, ∀ values taken, u.readMember ⟨values, taken, ⟨status, {}, body⟩⟩ m =
      pure ⟨Entries.putAll values ((if m.location = .statusCode then some status else none).toList.map
        fun x => (m.name, x)), taken || false, ⟨status, {}, body⟩⟩ := by
    intro m hm values taken
    rw [readMember, Bool.or_false]
    cases hloc : m.location with
    | statusCode => rfl
    | header =>
      simp only [readHeader_empty (texts m hm), Reading.ofConversion_ok, pure_bind]
      rfl
    | body | uri | query =>
      simp only [payload_of_not_hasPayload payload m hm,
        streaming_of_not_hasStreamingMember streaming m hm, Bool.or_self, Bool.false_eq_true, if_false]
      rfl
  have hfields : ((g.members r).filterMap fun m =>
      (if m.location = .statusCode then some status else none).map fun x => (m.name, x)) =
        statusFields g r status := by
    rw [statusFields, ← List.filterMap_eq_map, List.filterMap_filter]
    refine List.filterMap_congr fun m _ => ?_
    cases m.location <;> rfl
  have hany : (g.members r).any (fun _ => false) = false := by simp
  have hfold := foldlM_readMember step names
  rwa [hfields, hany] at hfold

/-- The members of a structure that come back from a response with this status whose body has all
of them: the status, and those that are located in the body. -/
def readable (g : Graph) (r : g.Ref) (status : Value) (fields : List (String × Value)) :
    List (String × Value) :=
  statusFields g r status ++ (present (g.shape r).bodyMembers fields).map fun q => (q.1.name, q.2)

/-- Members at different locations are different. -/
theorem nodup_readable {r : g.Ref} (hr : ((g.members r).map Member.name).Nodup)
    (fields : List (String × Value)) (status : Value) :
    ((readable g r status fields).map Prod.fst).Nodup := by
  have hbody : ((present (g.shape r).bodyMembers fields).map fun q => q.1.name).Nodup :=
    nodup_present (hr.sublist (List.filter_sublist.map _)) fields
  rw [readable, statusFields, List.map_append, List.map_map, List.map_map]
  refine List.nodup_append.mpr ⟨hr.sublist (List.filter_sublist.map _), hbody, ?_⟩
  intro name hstatus name' hname heq
  obtain ⟨m, hm, rfl⟩ := List.mem_map.mp hstatus
  obtain ⟨q, hq, rfl⟩ := List.mem_map.mp hname
  obtain ⟨hm, hloc⟩ := List.mem_filter.mp hm
  obtain ⟨hq, hbody⟩ := List.mem_filter.mp (mem_present hq).1
  rw [List.inj_on_of_nodup_map hr hm hq heq] at hloc
  rw [beq_iff_eq.mp hloc] at hbody
  cases hbody

/-- If all members are located in the body, all of them come back. -/
theorem readable_perm {r : g.Ref} (hr : ((g.members r).map Member.name).Nodup)
    {fields : List (String × Value)} (names : (fields.map Prod.fst).Nodup)
    (known : ∀ p ∈ fields, ∃ m ∈ g.members r, m.name = p.1)
    (payload : (g.shape r).hasPayload = false)
    (body : ∀ m ∈ g.members r, m.location = .body) (status : Value) :
    (readable g r status fields).Perm fields := by
  have hstatus : ((g.members r).filter fun m => m.location == .statusCode) = [] := by
    refine List.filter_eq_nil_iff.mpr fun m hm => ?_
    rw [body m hm]
    decide
  have hbody : (g.shape r).bodyMembers = g.members r := by
    rw [bodyMembers_of_not_hasPayload payload, List.filter_eq_self]
    intro m hm
    rw [body m hm]
    rfl
  rw [readable, statusFields, hstatus, hbody]
  exact present_perm hr names known

/-- What is read instead of the members that come back is alike to whatever these are alike to. -/
theorem alike_of_readable {r : g.Ref} {status : Value} {fields others : List (String × Value)}
    {result : Member g.size × Value → Value}
    (halike : ∀ q ∈ present (g.shape r).bodyMembers fields, (result q).Alike q.2)
    (names : (others.map Prod.fst).Nodup) (h : (readable g r status fields).Perm others) :
    (Value.ofFields (statusFields g r status ++
      (present (g.shape r).bodyMembers fields).map fun q => (q.1.name, result q))).Alike
        (.ofFields others) := by
  -- Each part with its name, the value that is meant and the value that is read.
  let parts : List (String × Value × Value) :=
    (statusFields g r status).map (fun p => (p.1, p.2, p.2)) ++
      (present (g.shape r).bodyMembers fields).map fun q => (q.1.name, q.2, result q)
  have hmeant : parts.map (fun a => (a.1, a.2.1)) = readable g r status fields := by
    simp only [parts, readable, List.map_append, List.map_map, Function.comp_def, List.map_id']
  have hread : parts.map (fun a => (a.1, a.2.2)) = statusFields g r status ++
      (present (g.shape r).bodyMembers fields).map fun q => (q.1.name, result q) := by
    simp only [parts, List.map_append, List.map_map, Function.comp_def, List.map_id']
  rw [← hread]
  refine Value.Alike.of_perm names (hmeant ▸ h) fun a ha => ?_
  rcases List.mem_append.mp ha with ha | ha
  · obtain ⟨p, -, rfl⟩ := List.mem_map.mp ha
    exact .refl p.2
  · obtain ⟨q, hq, rfl⟩ := List.mem_map.mp ha
    exact halike q hq

end ServiceWire.ResponseReader
