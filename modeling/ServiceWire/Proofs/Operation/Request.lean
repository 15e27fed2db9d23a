import ServiceWire.Operation.Service
import ServiceWire.Proofs.Codec.Success
import ServiceWire.Proofs.Shape.Reachable

/-!
# Requests that are written

A request is written if and only if its URI is a text, the members outside the body find their
places, the path has all its labels, and the body can be written. Everything about whole requests
follows from this and from what is known of their parts.
-/

namespace ServiceWire

namespace RequestWriter

variable {g : Graph} {w : RequestWriter g} {v : Value}

/-- A request before its body is written. -/
def start (w : RequestWriter g) (uri : String) (b : Bound) (p : String) : Http.Request where
  method := w.operation.method
  path := p
  query := UrlForm.ofTexts (UriTemplate.split uri).2 ++ b.query
  headers := b.headers
  endpoint := w.endpoint

theorem build_eq_ok_iff (notNull : v.isNull = false) {q : Http.Request} :
    w.build v = .ok q ↔ ∃ uri b p, w.operation.uri.asText = .ok uri ∧ w.bound v = .ok b ∧
      path (UriTemplate.split uri).1 b.labels = .ok p ∧ w.withBody v (w.start uri b p) = .ok q := by
  rw [build, notNull]
  constructor
  · intro h
    obtain ⟨uri, huri, h⟩ := exists_of_bind h
    obtain ⟨b, hb, h⟩ := exists_of_bind h
    obtain ⟨p, hp, h⟩ := exists_of_bind h
    exact ⟨uri, b, p, exists_of_mapError huri, exists_of_mapError hb, exists_of_mapError hp, h⟩
  · rintro ⟨uri, b, p, huri, hb, hp, h⟩
    rw [if_neg Bool.false_ne_true, huri]
    dsimp only [Except.mapError]
    rw [ok_bind, hb, ok_bind, hp, ok_bind]
    exact h

theorem write_eq_ok_iff {q : Http.Request} : (w.write v).1 = .ok q ↔ w.build v = .ok q := by
  rw [write]
  cases w.build v with
  | error e => exact iff_of_false (fun h => by cases h) fun h => by cases h
  | ok q' => exact ⟨fun h => congrArg _ (Except.ok.inj h), fun h => congrArg _ (Except.ok.inj h)⟩

/-- Whatever an input leads to can be written with a codec that handles all kinds. -/
theorem check_complete {format : BodyFormat} {notes : Bool} {ns : Value}
    (codec : w.codec = .complete format notes ns) (protocol : w.protocol ≠ .query) :
    w.check = .ok () := by
  have hquery : ¬(w.protocol = .query ∧ (!w.apiVersion.truthy) = true) := fun h => protocol h.1
  rw [check, if_neg hquery]
  cases w.operation.input with
  | none => rfl
  | some r =>
    refine (Codec.check_eq_ok_iff _ _).mpr fun q _ => ?_
    rw [codec]
    exact ShapeKind.mem_all _

end RequestWriter

namespace Service

variable {g : Graph}

/-- What writes the requests of an operation, before it is checked. -/
def writerOf (s : Service) (o : Operation g) (endpoint : Value) : RequestWriter g where
  protocol := s.protocol
  operation := o
  codec := s.requestCodec
  settings := s.settings.protocol
  endpoint := endpoint
  targetPrefix := s.targetPrefix
  jsonVersion := s.jsonVersion
  apiVersion := s.apiVersion

theorem requestWriter_eq (s : Service) (o : Operation g) (endpoint : Value) :
    s.requestWriter o endpoint =
      (s.writerOf o endpoint).check.map fun _ => s.writerOf o endpoint := by
  rw [requestWriter]
  change ((s.writerOf o endpoint).check >>= fun _ => pure (s.writerOf o endpoint)) = _
  cases (s.writerOf o endpoint).check with
  | error d => rfl
  | ok _ => rfl

/-- A service whose codec handles all kinds writes the requests of every operation. -/
theorem requestWriter_complete {s : Service} {format : BodyFormat} {notes : Bool} {ns : Value}
    (codec : s.requestCodec = .complete format notes ns) (protocol : s.protocol ≠ .query)
    (o : Operation g) (endpoint : Value) :
    s.requestWriter o endpoint = .ok (s.writerOf o endpoint) := by
  rw [requestWriter_eq, RequestWriter.check_complete codec protocol]
  rfl

end Service

end ServiceWire
