import ServiceWire.Operation.ResponseReader
import ServiceWire.Proofs.Codec.Coverage

/-!
# What comes of requests and responses

What a writer or a reader is made of is checked before any value is touched, and the check is
complete: once it has passed, no value brings a defect of the configuration to light. A request is
then written or reported as one that could not be written, a response is read or reported as one
that could not be read, and each is counted once.
-/

namespace ServiceWire

variable {g : Graph}

/-- The increments of a metric among others. -/
def Increment.ofMetric (name : String) (increments : List Increment) : List Increment :=
  increments.filter fun i => i.name == name

/-! ### Requests -/

namespace RequestWriter

variable {w : RequestWriter g} {input : g.Ref}

theorem noDefect_structurePayload {m : Member g.size} (hm : Covers g w.codec.writers m.shape)
    (v : Value) : NoDefect (w.structurePayload m v) := by
  have hnone : ∀ ms ∈ (none : Option (List (Member g.size))), ms ⊆ (g.shape m.shape).members :=
    fun ms hms => by cases hms
  rw [structurePayload]
  split
  · exact XmlBody.noDefect_encode hm v _ hnone
  · exact JsonBody.noDefect_encode hm v hnone

theorem noDefect_withPayload {m : Member g.size} (hm : Covers g w.codec.writers m.shape)
    (request : Value) (r : Http.Request) : NoDefect (w.withPayload request m r) := by
  rw [withPayload]
  split
  · exact .ok _
  · rename_i v hv
    split
    · split
      · exact .ok _
      · exact .ok _
      · split
        · exact .ok _
        · exact .failure _
      · split
        · exact .ok _
        · exact .failure _
    · split
      · split
        · exact .ok _
        · exact .failure _
      · exact .bind (noDefect_structurePayload hm v) fun data => .pure _
      · exact .failure _

theorem noDefect_encodeMembers (h : Covers g w.codec.writers input) (request : Value) :
    NoDefect (w.encodeMembers request input) := by
  have hbody : ∀ ms ∈ some (g.shape input).bodyMembers, ms ⊆ (g.shape input).members := by
    intro ms hms
    cases hms
    exact fun m hm => List.mem_of_mem_filter hm
  rw [encodeMembers]
  split
  · exact XmlBody.noDefect_encode h request _ hbody
  · exact JsonBody.noDefect_encode h request hbody

theorem noDefect_withJsonBody (h : ∀ input ∈ w.operation.input, Covers g w.codec.writers input)
    (request : Value) (r : Http.Request) : NoDefect (w.withJsonBody request r) := by
  rw [withJsonBody]
  split
  · exact .ok _
  · rename_i input hinput
    have hcovers := h input hinput
    split
    · rename_i m hm
      exact noDefect_withPayload (hcovers.of_mem_members (List.mem_of_find?_eq_some hm)) request _
    · exact .map (JsonBody.noDefect_encode hcovers request fun ms hms => by cases hms) _

theorem noDefect_withRestBody (h : ∀ input ∈ w.operation.input, Covers g w.codec.writers input)
    (request : Value) (r : Http.Request) : NoDefect (w.withRestBody request r) := by
  rw [withRestBody]
  split
  · exact .ok r
  · rename_i input hinput
    have hcovers := h input hinput
    split
    · split
      · rename_i m hm
        exact noDefect_withPayload (hcovers.of_mem_members (List.mem_of_find?_eq_some hm)) request r
      · exact .failure _
    · split
      · exact .bind (noDefect_encodeMembers hcovers request) fun data => .pure _
      · exact .ok r

theorem noDefect_withFormBody (h : ∀ input ∈ w.operation.input, Covers g w.codec.writers input)
    (request : Value) (r : Http.Request) : NoDefect (w.withFormBody request r) := by
  rw [withFormBody]
  split
  · exact .pure _
  · rename_i input hinput
    exact .bind (FormBody.noDefect_toParams (h input hinput) request _) fun params => .pure _

/-- A request whose input is covered is built, or the value is at fault. -/
theorem noDefect_build (h : ∀ input ∈ w.operation.input, Covers g w.codec.writers input)
    (request : Value) : NoDefect (w.build request) := by
  rw [build]
  split
  · exact .failure _
  · refine .bind (.mapError _) fun uri => .bind (.mapError _) fun b => ?_
    refine .bind (.mapError _) fun p => ?_
    rw [withBody]
    split
    · exact noDefect_withJsonBody h request _
    · exact noDefect_withRestBody h request _
    · exact noDefect_withRestBody h request _
    · exact noDefect_withFormBody h request _

/-- A request is refused for its configuration if and only if its input leads to a shape of a kind
that the codec does not write, or the Query protocol has no version. -/
theorem exists_check_error_iff (version : w.protocol = .query → w.apiVersion.truthy = true) :
    (∃ d, w.check = .error d) ↔
      ∃ r q, w.operation.input = some r ∧ g.Leads r q ∧ (g.shape q).kind ∉ w.codec.writers := by
  have hversion : ¬(w.protocol = .query ∧ (!w.apiVersion.truthy) = true) := by
    rintro ⟨hquery, hmissing⟩
    rw [version hquery] at hmissing
    cases hmissing
  cases hinput : w.operation.input with
  | none =>
    have hcheck : w.check = .ok () := by
      rw [check, if_neg hversion, hinput]
      rfl
    simp [hcheck]
  | some r =>
    have hcheck : w.check = w.codec.checkWritable g r := by
      rw [check, if_neg hversion, hinput]
    rw [hcheck]
    simp only [Codec.checkWritable, Codec.exists_check_error_iff]
    constructor
    · rintro ⟨q, hq⟩
      exact ⟨r, q, rfl, hq⟩
    · rintro ⟨r', q, heq, hq⟩
      cases heq
      exact ⟨q, hq⟩

theorem covers_of_check (h : w.check = .ok ()) :
    ∀ input ∈ w.operation.input, Covers g w.codec.writers input := by
  intro input hinput
  have hwritable : w.codec.checkWritable g input = .ok () := by
    rw [check] at h
    split at h
    · cases h
    · rw [hinput] at h
      exact h
  exact (Codec.check_eq_ok_iff _ _).mp hwritable

/-- A request is written and counted as written, or the value is at fault: it is reported under the
name of the operation and counted as not written. -/
def Settles (w : RequestWriter g) (request : Value) : Prop :=
  (∃ r, (w.write request).1 = .ok r ∧
    Increment.ofMetric "shapewire_marshall_total" (w.write request).2 =
      [.request w.protocol.label true]) ∨
  ∃ f, (w.write request).1 = .error (.marshalling w.protocol.label w.operation.name f) ∧
    Increment.ofMetric "shapewire_marshall_total" (w.write request).2 =
      [.request w.protocol.label false]

theorem settles_of_check (h : w.check = .ok ()) (request : Value) : w.Settles request := by
  have hbuild := noDefect_build (covers_of_check h) request
  rw [Settles, write]
  cases hr : w.build request with
  | ok r => exact .inl ⟨r, rfl, rfl⟩
  | error e =>
    obtain ⟨f, rfl⟩ := hbuild.exists_failure hr
    exact .inr ⟨f, rfl, rfl⟩

end RequestWriter

/-! ### Responses -/

namespace ResponseReader

variable {u : ResponseReader} {r : g.Ref}

theorem noDefect_readDocument (h : Covers g u.codec.readers r) (content : Bytes) :
    (u.readDocument g content r).NoDefect := by
  rw [readDocument]
  split
  · exact .bind (.ofConversion _) fun d => JsonBody.noDefect_ofDocument h d
  · exact .bind (.ofConversion _) fun e => XmlBody.noDefect_ofElement h e

theorem noDefect_readPayload {m : Member g.size} (h : Covers g u.codec.readers m.shape)
    (response : Http.Response) : (u.readPayload response m).NoDefect := by
  rw [readPayload]
  split
  · exact .pure _
  · refine .bind (.ofConversion _) fun content => ?_
    split
    · exact .bind (.ofConversion _) fun text => .pure _
    · split
      · exact .pure _
      · exact .bind (noDefect_readDocument h content) fun v => .pure _

theorem noDefect_readMember {m : Member g.size} (h : Covers g u.codec.readers m.shape)
    (p : Progress) : (u.readMember p m).NoDefect := by
  rw [readMember]
  split
  · exact .bind (.ofConversion _) fun v? => .pure _
  · exact .pure _
  all_goals
    split
    · exact .bind (noDefect_readPayload h _) fun q => .pure _
    · exact .pure p

theorem noDefect_readElement {members : List (Member g.size)}
    (h : ∀ m ∈ members, Covers g u.codec.readers m.shape) (e : Xml.Element) :
    (u.readElement r members e).NoDefect := by
  rw [readElement]
  split
  · exact XmlBody.noDefect_readSome h _ _
  · exact XmlBody.noDefect_readSome h _ _

theorem noDefect_readBody {members : List (Member g.size)}
    (h : ∀ m ∈ members, Covers g u.codec.readers m.shape) (content : Bytes) :
    (u.readBody content r members).NoDefect := by
  rw [readBody]
  split
  · exact .bind (.ofConversion _) fun d => JsonBody.noDefect_readSome h d
  · exact .bind (.ofConversion _) fun d => JsonBody.noDefect_readSome h d
  · exact .bind (.ofConversion _) fun root => noDefect_readElement h root
  · refine .bind (.ofConversion _) fun root => ?_
    split
    · exact .pure []
    · exact noDefect_readElement h _

/-- A response is read into a shape that is covered, or the response is at fault. -/
theorem noDefect_readStructure (h : Covers g u.codec.readers r) (response : Http.Response) :
    (u.readStructure response r).NoDefect := by
  rw [readStructure]
  refine .bind (.foldlM (fun m hm p => noDefect_readMember (h.of_mem_members hm) p) _) fun p => ?_
  dsimp only
  split
  · exact .bind (.pure _) fun values => .ofConversion _
  · refine .bind (.ofConversion _) fun content => ?_
    split
    · exact .bind (.pure _) fun values => .ofConversion _
    · have hbody : ∀ m ∈ (g.shape r).bodyMembers, Covers g u.codec.readers m.shape :=
        fun m hm => h.of_mem_members (List.mem_of_mem_filter hm)
      refine .bind (noDefect_readBody hbody content) fun more => ?_
      exact .bind (.pure _) fun values => .ofConversion _

/-- A response is read and counted as read, or the response is at fault: it is reported under the
name of the operation and counted as not read. -/
def Settles (u : ResponseReader) (r : g.Ref) (response : Http.Response) : Prop :=
  (∃ v, (u.read response (some r)).result = .ok v ∧
    Increment.ofMetric "shapewire_unmarshall_total" (u.read response (some r)).increments =
      [.response u.protocol.label true]) ∨
  ∃ f, (u.read response (some r)).result =
      .error (.unmarshalling u.protocol.label u.operation response.status f) ∧
    Increment.ofMetric "shapewire_unmarshall_total" (u.read response (some r)).increments =
      [.response u.protocol.label false]

theorem settles_of_covers (h : Covers g u.codec.readers r) (response : Http.Response) :
    u.Settles r response := by
  have hcheck : u.codec.checkReadable g r = .ok () := (Codec.check_eq_ok_iff _ _).mpr h
  have hread := noDefect_readStructure h response
  rw [Settles, read]
  simp only [hcheck]
  cases hr : (u.readStructure response r).outcome with
  | ok v => exact .inl ⟨v, rfl, rfl⟩
  | error e =>
    obtain ⟨f, rfl⟩ := hread.exists_failure hr
    exact .inr ⟨f, rfl, rfl⟩

/-- A response is refused for its configuration, whatever it is, if and only if the shape leads to
one of a kind that the codec does not read. -/
theorem exists_configuration_iff (u : ResponseReader) (r : g.Ref) (response : Http.Response) :
    (∃ d, (u.read response (some r)).result = .error (.configuration d)) ↔
      ∃ q, g.Leads r q ∧ (g.shape q).kind ∉ u.codec.readers := by
  constructor
  · rintro ⟨d, hd⟩
    by_contra hnone
    have hcovers : Covers g u.codec.readers r := fun q hq => by_contra fun hk => hnone ⟨q, hq, hk⟩
    rcases settles_of_covers hcovers response with ⟨v, hv, -⟩ | ⟨f, hf, -⟩
    · rw [hv] at hd
      cases hd
    · rw [hf] at hd
      cases hd
  · intro hmissing
    obtain ⟨d, hd⟩ := (Codec.exists_check_error_iff u.codec _ Codec.readerRole _).mpr hmissing
    refine ⟨d, ?_⟩
    rw [read]
    simp only [Codec.checkReadable, hd]

end ResponseReader

/-- The checks of the configuration are exact, and once they have passed every request and every
response is settled: nothing that is said by a value is taken for a defect. -/
theorem configuration_checks_exact (g : Graph) :
    (∀ w : RequestWriter g, (w.protocol = .query → w.apiVersion.truthy = true) →
      ((∃ d, w.check = .error d) ↔
        ∃ r q, w.operation.input = some r ∧ g.Leads r q ∧ (g.shape q).kind ∉ w.codec.writers) ∧
      (w.check = .ok () → ∀ request, w.Settles request)) ∧
    ∀ (u : ResponseReader) (r : g.Ref),
      (∀ response, (∃ d, (u.read response (some r)).result = .error (.configuration d)) ↔
        ∃ q, g.Leads r q ∧ (g.shape q).kind ∉ u.codec.readers) ∧
      ((∀ q, g.Leads r q → (g.shape q).kind ∈ u.codec.readers) →
        ∀ response, u.Settles r response) :=
  ⟨fun _ version => ⟨RequestWriter.exists_check_error_iff version, RequestWriter.settles_of_check⟩,
    fun u r => ⟨u.exists_configuration_iff r, ResponseReader.settles_of_covers⟩⟩

/-- A list of texts: a structure that contains itself. -/
def chain : Graph where
  size := 2
  shapes := #v[
    { name := "Chain"
      form := .struct [{ name := "text", shape := 1 }, { name := "next", shape := 0 }] },
    { name := "Text", form := .scalar .string }]

/-- A writer of chains in forms. -/
def chainWriter (c : Codec) : RequestWriter chain where
  protocol := .query
  operation := { name := .str "Put", input := some ⟨0, by decide⟩ }
  codec := c
  apiVersion := .str "1"

/-- A reader of chains. -/
def chainReader (c : Codec) : ResponseReader := { protocol := .json, codec := c }

/-- Without texts, chains are refused; with all kinds, whatever is written or read is settled. -/
theorem configuration_checks_exact_chain :
    (∃ d, (chainWriter
      ((Codec.complete .query false .null).withoutWriters [.scalar .string])).check = .error d) ∧
    (chainWriter (.complete .query false .null)).Settles (.int 1) ∧
    (∃ d, ((chainReader ((Codec.complete .json false .null).withoutReaders [.scalar .string])).read
      (g := chain) ⟨.int 200, {}, .null⟩ (some ⟨0, by decide⟩)).result =
        .error (.configuration d)) ∧
    (chainReader (.complete .json false .null)).Settles (g := chain) ⟨0, by decide⟩
      ⟨.int 200, {}, .ofBytes (bytesOf "[1]")⟩ := by
  obtain ⟨hwriters, hreaders⟩ := configuration_checks_exact chain
  have hleads : chain.Leads ⟨0, by decide⟩ ⟨1, by decide⟩ := by
    refine .head ?_ (.refl _)
    rw [← Graph.mem_children_iff]
    decide
  have hcheck : (chainWriter (.complete .query false .null)).check = .ok () := by
    cbv
  refine ⟨?_, ?_, ?_, ?_⟩
  · refine (hwriters _ fun _ => by decide).1.mpr ⟨_, _, rfl, hleads, by decide⟩
  · exact (hwriters _ fun _ => by decide).2 hcheck _
  · exact ((hreaders _ _).1 _).mpr ⟨_, hleads, by decide⟩
  · exact (hreaders _ _).2 (fun q _ => ShapeKind.mem_all _) _

end ServiceWire
