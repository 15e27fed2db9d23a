import ServiceWire.Proofs.Operation.Outcome
import ServiceWire.Proofs.Stream.Handler

/-!
# Runs of event streams

A frame is read, set aside as one of an unknown event, or ends the run. Which of the three it is
depends on the frame alone. A run over frames of any number therefore yields the events of the
frames before the first one that fails, sets those of unknown events aside, looks at nothing behind
that frame, and counts each frame that it looks at once.
-/

namespace ServiceWire

variable {g : Graph}

/-! ### Frames -/

namespace Frame

/-- Whether a frame carries an event, be it an error or not. -/
def carriesEvent (f : Frame) : Bool := f.isMessage eventMessage || f.isMessage errorEventMessage

/-- The values of header fields can be keys. -/
def HasKeys (f : Frame) : Prop := (f.headers.all fun p => p.2.isKey) = true

theorem isMessage_iff (f : Frame) (type : String) :
    f.isMessage type = true ↔ f.messageType = .str type := by
  rw [isMessage]
  split
  · rename_i s hs
    rw [hs, beq_iff_eq, Value.str.injEq]
  · rename_i hne
    exact iff_of_false Bool.false_ne_true (hne type)

theorem carriesEvent_iff (f : Frame) :
    f.carriesEvent = true ↔ f.messageType = .str eventMessage ∨
      f.messageType = .str errorEventMessage := by
  rw [carriesEvent, Bool.or_eq_true, isMessage_iff, isMessage_iff]

/-- A frame that carries an event reports no error of the stream itself. -/
theorem not_isMessage_error {f : Frame} (h : f.carriesEvent = true) :
    f.isMessage errorMessage = false := by
  rw [Bool.eq_false_iff]
  intro herror
  rw [isMessage_iff] at herror
  rw [carriesEvent_iff, herror] at h
  rcases h with h | h
  · exact absurd (Value.str.inj h) (by decide)
  · exact absurd (Value.str.inj h) (by decide)

theorem isKey_of_header? {f : Frame} (h : f.HasKeys) {name v : Value}
    (hv : f.header? name = some v) : v.isKey = true := by
  rw [header?] at hv
  rw [HasKeys, List.all_eq_true] at h
  generalize f.headers = headers at h hv
  induction headers with
  | nil => cases hv
  | cons p rest ih =>
    obtain ⟨k, w⟩ := p
    rw [List.lookup_cons] at hv
    split at hv
    · cases hv
      exact h _ (List.mem_cons_self ..)
    · exact ih (fun p hp => h p (List.mem_cons_of_mem _ hp)) hv

theorem isKey_eventType {f : Frame} (h : f.HasKeys) : f.eventType.isKey = true := by
  rw [eventType]
  cases hv : f.header? (.str (if f.isMessage errorEventMessage then errorTypeField
      else eventTypeField)) with
  | none => rfl
  | some v => exact isKey_of_header? h hv

end Frame

/-! ### What a frame comes to -/

namespace EventUnion

/-- Whether a value is the name of an event of the union. -/
def knows (u : EventUnion g) (name : Value) : Bool :=
  (g.members u.shape).any fun m => name == .str m.name

/-- Whether a frame is set aside: it carries an event, but none of the union. -/
def skips (u : EventUnion g) (f : Frame) : Bool := f.carriesEvent && !u.knows f.eventType

/-- The event of a frame, if the handler of its name can read it. -/
def envelope? (u : EventUnion g) (f : Frame) : Option Envelope :=
  if f.carriesEvent then
    (u.handler? f.eventType).bind fun h => (h.read f).outcome.toOption.map fun v =>
      ⟨f.eventType, v, f.isMessage Frame.errorEventMessage⟩
  else none

/-- What a frame that was looked at is counted as. -/
def status (u : EventUnion g) (f : Frame) : String :=
  if u.skips f then "unknown" else Increment.status (u.envelope? f).isSome

variable {c : Codec} {contentType : Value} {u : EventUnion g}

theorem knows_iff (u : EventUnion g) (name : Value) :
    u.knows name = true ↔ ∃ m ∈ g.members u.shape, name = .str m.name := by
  simp only [knows, List.any_eq_true, Value.beq_str_iff]

theorem skips_iff (u : EventUnion g) (f : Frame) :
    u.skips f = true ↔ (f.messageType = .str Frame.eventMessage ∨
      f.messageType = .str Frame.errorEventMessage) ∧
        ¬∃ m ∈ g.members u.shape, f.eventType = .str m.name := by
  rw [skips, Bool.and_eq_true, Frame.carriesEvent_iff, Bool.not_eq_true', ← Bool.not_eq_true,
    knows_iff]

/-- The names with handlers are those of the events. -/
theorem handler?_isSome (hu : u.IsStandard c contentType) (name : Value) :
    (u.handler? name).isSome = u.knows name := by
  rw [Bool.eq_iff_iff, knows_iff]
  cases name with
  | str s =>
    rw [handler?, List.find?_isSome]
    constructor
    · rintro ⟨h, hh, hname⟩
      obtain ⟨m, hm, rfl, -⟩ := hu.standard h hh
      exact ⟨m, hm, congrArg _ (eq_of_beq hname).symm⟩
    · rintro ⟨m, hm, heq⟩
      obtain ⟨h, hh, hname⟩ := hu.complete m hm
      refine ⟨h, hh, ?_⟩
      rw [hname, Value.str.inj heq]
      exact beq_self_eq_true _
  | _ => simp [handler?]

theorem mem_handlers_of_handler? {name : Value} {h : EventHandler g}
    (hh : u.handler? name = some h) : h ∈ u.handlers := by
  cases name with
  | str s => exact List.mem_of_find?_eq_some hh
  | _ => cases hh

theorem name_of_handler? {name : Value} {h : EventHandler g} (hh : u.handler? name = some h) :
    name = .str h.name := by
  cases name with
  | str s =>
    rw [handler?] at hh
    have hname := List.find?_some hh
    exact congrArg _ (eq_of_beq hname).symm
  | _ => cases hh

theorem handler?_of_skips (hu : u.IsStandard c contentType) {f : Frame} (h : u.skips f = true) :
    u.handler? f.eventType = none := by
  rw [skips, Bool.and_eq_true, Bool.not_eq_true'] at h
  rw [← Option.isNone_iff_eq_none, ← Option.not_isSome, handler?_isSome hu, h.2]
  rfl

theorem envelope?_of_skips (hu : u.IsStandard c contentType) {f : Frame} (h : u.skips f = true) :
    u.envelope? f = none := by
  rw [envelope?, handler?_of_skips hu h, Option.bind_none, ite_self]

/-- The parts of an event that is read from a frame. -/
theorem envelope?_eq_some {f : Frame} {e : Envelope} (h : u.envelope? f = some e) :
    f.carriesEvent = true ∧ ∃ handler v, u.handler? f.eventType = some handler ∧
      (handler.read f).outcome = .ok v ∧
        e = ⟨f.eventType, v, f.isMessage Frame.errorEventMessage⟩ := by
  rw [envelope?] at h
  split at h
  · rename_i hcarries
    obtain ⟨handler, hhandler, h⟩ := Option.bind_eq_some_iff.mp h
    obtain ⟨v, hv, rfl⟩ := Option.map_eq_some_iff.mp h
    refine ⟨hcarries, handler, v, hhandler, ?_, rfl⟩
    cases ho : (handler.read f).outcome with
    | error fault =>
      rw [ho] at hv
      cases hv
    | ok w =>
      rw [ho] at hv
      cases hv
      rfl
  · cases h

/-! ### One frame -/

theorem read_of_carriesEvent {f : Frame} (h : f.carriesEvent = true) :
    u.read f =
      match u.dispatch f.eventType with
      | .error err => ⟨.error err, [], []⟩
      | .ok h =>
        let reading := h.read f
        match reading.outcome with
        | .ok v =>
          ⟨.ok ⟨f.eventType, v, f.isMessage Frame.errorEventMessage⟩, [inbound true],
            reading.notes⟩
        | .error (.defect d) => ⟨.error (.configuration d), [inbound false], reading.notes⟩
        | .error (.failure cause) =>
          ⟨.error (.eventUnmarshalling f.eventType u.operation cause), [inbound false],
            reading.notes⟩ := by
  rw [read, if_neg (by rw [Frame.not_isMessage_error h]; exact Bool.false_ne_true)]
  rw [Frame.carriesEvent] at h
  exact if_pos h

/-- A frame that is set aside is of an unknown event. -/
theorem read_of_skips (hu : u.IsStandard c contentType) {f : Frame} (hf : f.HasKeys)
    (h : u.skips f = true) :
    u.read f = ⟨.error (.unknownEvent f.eventType u.eventNames), [], []⟩ := by
  have hcarries : f.carriesEvent = true := (Bool.and_eq_true_iff.mp h).1
  have hdispatch : u.dispatch f.eventType = .error (.unknownEvent f.eventType u.eventNames) := by
    rw [dispatch, handler?_of_skips hu h]
    simp only [Frame.isKey_eventType hf, if_true]
  rw [read_of_carriesEvent hcarries, hdispatch]

/-- A frame with an event is read as the event and counted as read. -/
theorem read_of_envelope? {f : Frame} {e : Envelope} (h : u.envelope? f = some e) :
    (u.read f).result = .ok e ∧ (u.read f).increments = [inbound true] := by
  obtain ⟨hcarries, handler, v, hhandler, houtcome, rfl⟩ := envelope?_eq_some h
  have hdispatch : u.dispatch f.eventType = .ok handler := by rw [dispatch, hhandler]
  rw [read_of_carriesEvent hcarries, hdispatch]
  simp only [houtcome, and_self]

/-- An error that ends a run over frames. If the codec reads at all, the stream reported it or a
frame could not be read. -/
structure Ends (c : Codec) (err : WireError) : Prop where
  known : ∀ event names, err ≠ .unknownEvent event names
  errorClass : c.readers ≠ [] →
    err.errorClass? = some .eventStream ∨ err.errorClass? = some .unmarshalling

/-- A frame that is neither set aside nor read ends the run and is counted as failed. -/
theorem read_of_envelope?_eq_none (hu : u.IsStandard c contentType) {f : Frame}
    (hs : u.skips f = false) (he : u.envelope? f = none) :
    ∃ err, (u.read f).result = .error err ∧ Ends c err ∧
      (u.read f).increments = [inbound false] := by
  cases hcarries : f.carriesEvent with
  | false =>
    rw [Frame.carriesEvent] at hcarries
    cases herror : f.isMessage Frame.errorMessage with
    | true =>
      rw [read, if_pos herror]
      exact ⟨_, rfl, ⟨fun _ _ h => (by cases h), fun _ => .inl rfl⟩, rfl⟩
    | false =>
      have hread : u.read f =
          ⟨.error (.messageType f.messageType u.operation), [inbound false], []⟩ := by
        rw [read]
        simp only [herror, hcarries, Bool.false_eq_true, if_false]
      rw [hread]
      exact ⟨_, rfl, ⟨fun _ _ h => (by cases h), fun _ => .inr rfl⟩, rfl⟩
  | true =>
    have hknows : u.knows f.eventType = true := by
      rw [skips, hcarries, Bool.true_and, Bool.not_eq_false'] at hs
      exact hs
    obtain ⟨h, hh⟩ := Option.isSome_iff_exists.mp ((handler?_isSome hu _).trans hknows)
    have hdispatch : u.dispatch f.eventType = .ok h := by rw [dispatch, hh]
    have hclean : c.readers ≠ [] → (h.read f).NoDefect := by
      intro hc
      obtain ⟨m, -, rfl, hcovers⟩ := hu.standard h (mem_handlers_of_handler? hh)
      exact EventHandler.noDefect_readFrame (hcovers hc) f
    rw [read_of_carriesEvent hcarries, hdispatch]
    cases ho : (h.read f).outcome with
    | ok v =>
      rw [envelope?, if_pos hcarries, hh, Option.bind_some, ho] at he
      cases he
    | error fault =>
      cases fault with
      | failure cause =>
        simp only [ho]
        exact ⟨_, rfl, ⟨fun _ _ h => (by cases h), fun _ => .inr rfl⟩, trivial⟩
      | defect d =>
        simp only [ho]
        exact ⟨_, rfl, ⟨fun _ _ h => (by cases h), fun hc => absurd ho (hclean hc d)⟩, trivial⟩

/-! ### Runs -/

/-- A frame that was looked at, in the count. -/
def counted (u : EventUnion g) (f : Frame) : Increment := .frame "inbound" (u.status f)

/-- What comes of a run over frames, given the frames before the first one that fails, and that one
with those behind it. -/
structure Yields (c : Codec) (u : EventUnion g) (run : Run) (before rest : List Frame) : Prop where
  events : run.events = before.filterMap u.envelope?
  unknown : run.unknown = (before.filter u.skips).map fun f => (f.eventType, f)
  frames : Increment.ofMetric "shapewire_event_stream_frames_total" run.increments =
    (before ++ rest.take 1).map u.counted
  unknownEvents : Increment.ofMetric "shapewire_unknown_events_total" run.increments =
    (before.filter u.skips).map fun f => .unknownEvent f.eventType.text
  passed : ∀ f ∈ before, u.skips f = true ∨ (u.envelope? f).isSome = true
  complete : rest = [] → run.failure? = none
  failed : ∀ f later, rest = f :: later → u.skips f = false ∧ u.envelope? f = none ∧
    (∃ err, run.failure? = some err ∧ Ends c err) ∧
      ∀ others, u.readAll (before ++ f :: others) = run

/-- What comes of a run depends on a first frame and on the run over the others. -/
theorem readAll_congr {frames others : List Frame} (h : u.readAll frames = u.readAll others)
    (f : Frame) : u.readAll (f :: frames) = u.readAll (f :: others) := by
  rw [readAll, readAll, h]

theorem Yields.nil (c : Codec) (u : EventUnion g) : Yields c u (u.readAll []) [] [] where
  events := rfl
  unknown := rfl
  frames := rfl
  unknownEvents := rfl
  passed := fun _ hf => by cases hf
  complete := fun _ => rfl
  failed := fun _ _ h => by cases h

theorem readAll_of_ends {f : Frame} {err : WireError} (hresult : (u.read f).result = .error err)
    (hends : Ends c err) (frames : List Frame) :
    u.readAll (f :: frames) =
      { failure? := some err
        increments := (u.read f).increments
        notes := (u.read f).notes } := by
  simp only [readAll, hresult]
  cases err with
  | unknownEvent event names => exact absurd rfl (hends.known event names)
  | _ => rfl

/-- A frame that fails ends a run. -/
theorem Yields.fail (hu : u.IsStandard c contentType) {f : Frame} (hs : u.skips f = false)
    (he : u.envelope? f = none) (frames : List Frame) :
    Yields c u (u.readAll (f :: frames)) [] (f :: frames) := by
  obtain ⟨err, hresult, hends, hincrements⟩ := read_of_envelope?_eq_none hu hs he
  have hrun := readAll_of_ends hresult hends
  have hcounted : u.counted f = inbound false := by
    simp only [counted, status, hs, he, Bool.false_eq_true, if_false, Option.isSome_none, inbound]
  refine ⟨?_, ?_, ?_, ?_, fun _ hf => (by cases hf), fun h => (by cases h), ?_⟩
  · rw [hrun]
    rfl
  · rw [hrun]
    rfl
  · rw [hrun, hincrements, List.nil_append, List.take_succ_cons, List.take_zero, List.map_singleton,
      hcounted]
    rfl
  · rw [hrun, hincrements]
    rfl
  · intro f' later heq
    cases heq
    refine ⟨hs, he, ⟨err, by rw [hrun], hends⟩, fun others => ?_⟩
    rw [List.nil_append, hrun, hrun]

/-- A frame of an unknown event is set aside. -/
theorem Yields.skip (hu : u.IsStandard c contentType) {f : Frame} (hf : f.HasKeys)
    (hs : u.skips f = true) {frames before rest : List Frame}
    (h : Yields c u (u.readAll frames) before rest) :
    Yields c u (u.readAll (f :: frames)) (f :: before) rest := by
  have hread := read_of_skips hu hf hs
  have he := envelope?_of_skips hu hs
  have hcounted : u.counted f = .frame "inbound" "unknown" := by
    simp only [counted, status, hs, if_true]
  refine ⟨?_, ?_, ?_, ?_, ?_, ?_, ?_⟩
  · rw [List.filterMap_cons_none he, ← h.events]
    simp only [readAll, hread]
  · rw [List.filter_cons_of_pos hs, List.map_cons, ← h.unknown]
    simp only [readAll, hread]
  · rw [List.cons_append, List.map_cons, ← h.frames, hcounted]
    simp only [readAll, hread, Increment.ofMetric]
    rfl
  · rw [List.filter_cons_of_pos hs, List.map_cons, ← h.unknownEvents]
    simp only [readAll, hread, Increment.ofMetric]
    rfl
  · exact List.forall_mem_cons.mpr ⟨.inl hs, h.passed⟩
  · intro hrest
    simp only [readAll, hread]
    exact h.complete hrest
  · intro f' later hrest
    obtain ⟨hs', he', ⟨err, herr, hends⟩, hothers⟩ := h.failed f' later hrest
    refine ⟨hs', he', ⟨err, ?_, hends⟩, fun others => readAll_congr (hothers others) f⟩
    simp only [readAll, hread]
    exact herr

/-- The event of a frame is yielded. -/
theorem Yields.event {f : Frame} {e : Envelope} (hs : u.skips f = false)
    (he : u.envelope? f = some e) {frames before rest : List Frame}
    (h : Yields c u (u.readAll frames) before rest) :
    Yields c u (u.readAll (f :: frames)) (f :: before) rest := by
  obtain ⟨hresult, hincrements⟩ := read_of_envelope? he
  have hcounted : u.counted f = inbound true := by
    simp only [counted, status, hs, he, Bool.false_eq_true, if_false, Option.isSome_some, inbound]
  have hnot : ¬u.skips f = true := by
    rw [hs]
    exact Bool.false_ne_true
  refine ⟨?_, ?_, ?_, ?_, ?_, ?_, ?_⟩
  · rw [List.filterMap_cons_some he, ← h.events]
    simp only [readAll, hresult]
  · rw [List.filter_cons_of_neg hnot, ← h.unknown]
    simp only [readAll, hresult]
  · rw [List.cons_append, List.map_cons, ← h.frames, hcounted]
    simp only [readAll, hresult, hincrements, Increment.ofMetric]
    rfl
  · rw [List.filter_cons_of_neg hnot, ← h.unknownEvents]
    simp only [readAll, hresult, hincrements, Increment.ofMetric]
    rfl
  · exact List.forall_mem_cons.mpr ⟨.inr (by rw [he]; rfl), h.passed⟩
  · intro hrest
    simp only [readAll, hresult]
    exact h.complete hrest
  · intro f' later hrest
    obtain ⟨hs', he', ⟨err, herr, hends⟩, hothers⟩ := h.failed f' later hrest
    refine ⟨hs', he', ⟨err, ?_, hends⟩, fun others => readAll_congr (hothers others) f⟩
    simp only [readAll, hresult]
    exact herr

theorem exists_yields (hu : u.IsStandard c contentType) {frames : List Frame}
    (hf : ∀ f ∈ frames, f.HasKeys) :
    ∃ before rest, frames = before ++ rest ∧ Yields c u (u.readAll frames) before rest := by
  induction frames with
  | nil => exact ⟨[], [], rfl, .nil c u⟩
  | cons f frames ih =>
    obtain ⟨before, rest, heq, hrun⟩ := ih fun f' hf' => hf f' (List.mem_cons_of_mem _ hf')
    have hcons : f :: frames = f :: before ++ rest := by rw [List.cons_append, heq]
    cases hs : u.skips f with
    | true =>
      exact ⟨f :: before, rest, hcons, hrun.skip hu (hf f (List.mem_cons_self ..)) hs⟩
    | false =>
      cases he : u.envelope? f with
      | none => exact ⟨[], f :: frames, rfl, .fail hu hs he frames⟩
      | some e => exact ⟨f :: before, rest, hcons, hrun.event hs he⟩

/-- An event that is yielded is what the standard handler of a member reads from the frame. -/
theorem exists_of_envelope? (hu : u.IsStandard c contentType) {f : Frame} {e : Envelope}
    (h : u.envelope? f = some e) :
    ∃ m ∈ g.members u.shape, ∃ v, f.eventType = .str m.name ∧
      (EventHandler.readFrame c g m.shape f).outcome = .ok v ∧
        e = ⟨.str m.name, v, f.isMessage Frame.errorEventMessage⟩ := by
  obtain ⟨-, handler, v, hhandler, houtcome, rfl⟩ := envelope?_eq_some h
  obtain ⟨m, hm, rfl, -⟩ := hu.standard handler (mem_handlers_of_handler? hhandler)
  have hname : f.eventType = .str m.name := name_of_handler? hhandler
  exact ⟨m, hm, v, hname, houtcome, by rw [hname]⟩

/-- A run over frames with the standard handlers of a union yields the events of the frames before
the first one that fails, sets frames of unknown events aside, counts each frame that it looks at
once, and ends with an error of the stream or of a frame. -/
theorem exists_yields_of_create {r : g.Ref} {operation : Value}
    {settings : StreamSettings} {handlers : List (EventHandler g)}
    (hhandlers : EventHandler.standardFor c g r contentType = .ok handlers)
    (hu : create g r handlers settings operation = .ok u) {frames : List Frame}
    (hf : ∀ f ∈ frames, f.HasKeys) :
    (∀ f, u.skips f = true ↔ (f.messageType = .str Frame.eventMessage ∨
        f.messageType = .str Frame.errorEventMessage) ∧
          ¬∃ m ∈ g.members r, f.eventType = .str m.name) ∧
    (∀ f e, u.envelope? f = some e → ∃ m ∈ g.members r, ∃ v, f.eventType = .str m.name ∧
      (EventHandler.readFrame c g m.shape f).outcome = .ok v ∧
        e = ⟨.str m.name, v, f.isMessage Frame.errorEventMessage⟩) ∧
    ∃ before rest, frames = before ++ rest ∧ Yields c u (u.readAll frames) before rest := by
  have hstandard := isStandard_of_create hhandlers hu
  obtain rfl := shape_of_create hu
  exact ⟨u.skips_iff, fun f e => exists_of_envelope? hstandard, exists_yields hstandard hf⟩

/-- The events of a conversation: what is said, and that it ended too early. -/
def talk : Graph where
  size := 5
  shapes := #v[
    { name := "Talk", eventStream := true
      form := .struct [{ name := "said", shape := 1 }, { name := "cut", shape := 2 }] },
    { name := "Said", form := .struct [{ name := "text", shape := 3, location := .header },
      { name := "at", shape := 4, location := .header }] },
    { name := "Cut", isError := true, form := .struct [] },
    { name := "Text", form := .scalar .string },
    { name := "Time", form := .scalar .timestamp }]

/-- The standard handlers of a conversation. -/
def talkHandlers : List (EventHandler talk) :=
  [EventHandler.standard (.complete .json false .null) talk "said" ⟨1, by decide⟩ .null,
    EventHandler.standard (.complete .json false .null) talk "cut" ⟨2, by decide⟩ .null]

theorem standardFor_talk :
    EventHandler.standardFor (.complete .json false .null) talk ⟨0, by decide⟩ .null =
      .ok talkHandlers := by
  rfl

/-- A conversation. -/
def talkUnion : EventUnion talk := ⟨⟨0, by decide⟩, talkHandlers, {}, .null⟩

theorem create_talk : create talk ⟨0, by decide⟩ talkHandlers {} .null = .ok talkUnion := by
  rfl

/-- A frame that says something. -/
def saying (text : String) : Frame :=
  { headers := [(.str Frame.eventTypeField, .str "said"), (.str "text", .str text)] }

/-- A frame of an event that is not known. -/
def hearing : Frame := { headers := [(.str Frame.eventTypeField, .str "heard")] }

/-- Something is said, an event is not known, and the stream breaks before more is said. -/
def talkFrames : List Frame := [saying "a", hearing, .error (.str "E1") (.str ""), saying "b"]

/-- A run over the frames of a conversation, the first two of which are passed. -/
theorem exists_yields_of_create_talk :
    (∃ before rest, talkFrames = before ++ rest ∧
      Yields (.complete .json false .null) talkUnion (talkUnion.readAll talkFrames) before rest) ∧
    talkUnion.envelope? (saying "a") =
      some ⟨.str "said", .ofFields [("text", .str "a")], false⟩ ∧
    talkUnion.skips hearing = true := by
  have hall : (talkFrames.all fun f => f.headers.all fun p => p.2.isKey) = true := by cbv
  have hkeys : ∀ f ∈ talkFrames, f.HasKeys := List.all_eq_true.mp hall
  obtain ⟨-, -, hrun⟩ := exists_yields_of_create standardFor_talk create_talk hkeys
  exact ⟨hrun, by cbv, by cbv⟩

end EventUnion

end ServiceWire
