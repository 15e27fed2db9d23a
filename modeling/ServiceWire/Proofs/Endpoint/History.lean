import ServiceWire.Endpoint.Metadata
import Mathlib.Data.List.Basic

/-!
# Answers that depend on earlier questions

A resolver keeps the metadata of a service under its name in lower case, but the metadata are those
of one spelling: host names begin with the name as it was given, and a table may list a name in
several spellings. What a resolver answers is therefore what a fresh one answers for the spelling
under which the service was found first. It is the fresh answer for the name that is asked for if no
earlier question spelled it in another way, and it can be another one if some question did.
-/

namespace ServiceWire

/-- Whether a table has endpoints of a service. -/
def PartitionTable.hasService (t : PartitionTable) (service : String) : Bool :=
  t.partitions.any fun p => (p.serviceEndpoints service).isSome

/-- Metadata can be had of the services that a table has. -/
theorem EndpointMetadata.isOk_ofTable (t : PartitionTable) (service : String)
    (settings : RegionSettings) :
    (ofTable t service settings).isOk = t.hasService service := by
  have hfound : (t.partitions.foldl (Findings.addPartition service) {}).found =
      t.hasService service := Findings.found_foldl_addPartition service {} t.partitions
  rw [ofTable, hfound]
  cases t.hasService service with
  | false => rfl
  | true => rfl

namespace EndpointResolver

/-- A question to a resolver. -/
inductive Question
  | metadata (service : String)
  | endpointFor (service region : String)
  | endpointUrl (service region : String)
  | signingRegionFor (service region : String)

/-- The service that a question is about. -/
def Question.service : Question → String
  | metadata service | endpointFor service _ | endpointUrl service _ | signingRegionFor service _ =>
    service

/-- A resolver that was not asked anything yet. -/
def fresh (t : PartitionTable) (settings : RegionSettings) : EndpointResolver := ⟨t, settings, []⟩

/-- A resolver after it has answered a question. -/
def after (r : EndpointResolver) : Question → EndpointResolver
  | .metadata service => (r.metadata service).2
  | .endpointFor service region => (r.endpointFor service region).2
  | .endpointUrl service region => (r.endpointUrl service region).2
  | .signingRegionFor service region => (r.signingRegionFor service region).2

/-- What a resolver answers about a service in a region: the host name, the address and the region
to sign requests for. -/
def answers (r : EndpointResolver) (service region : String) :
    Except Fault Value × Except Fault Value × Except Fault Value :=
  ((r.endpointFor service region).1, (r.endpointUrl service region).1,
    (r.signingRegionFor service region).1)

/-- The spelling under which a service was first found, among the names that were asked for. -/
def spelling? (t : PartitionTable) (asked : List String) (service : String) : Option String :=
  asked.find? fun s => Text.lower s == Text.lower service && t.hasService s

variable {t : PartitionTable} {settings : RegionSettings}

/-! ### What a resolver remembers -/

/-- A resolver over a table knows the metadata of the services that it was asked for, each for the
spelling under which it was found first. -/
structure Remembers (t : PartitionTable) (settings : RegionSettings) (asked : List String)
    (r : EndpointResolver) : Prop where
  sameTable : r.table = t
  sameSettings : r.settings = settings
  known : ∀ service, r.known.lookup (Text.lower service) =
    (spelling? t asked service).bind fun s => (EndpointMetadata.ofTable t s settings).toOption

theorem remembers_fresh (t : PartitionTable) (settings : RegionSettings) :
    Remembers t settings [] (fresh t settings) := ⟨rfl, rfl, fun _ => rfl⟩

/-- Every question leaves a resolver as a question for the metadata does. -/
theorem after_eq (r : EndpointResolver) (q : Question) : r.after q = (r.metadata q.service).2 := by
  have hask {α : Type} (question : EndpointMetadata → Except Failure α) (service : String) :
      (r.ask question service).2 = (r.metadata service).2 := by
    rw [ask]
    cases r.metadata service with
    | mk m? r' =>
      cases m? with
      | ok m => rfl
      | error d => rfl
  cases q with
  | metadata service => rfl
  | endpointFor service region => exact hask _ service
  | endpointUrl service region => exact hask _ service
  | signingRegionFor service region => exact hask _ service

/-- A service that has been found keeps its spelling. -/
theorem spelling?_append_of_some {asked : List String} {service found : String}
    (h : spelling? t asked service = some found) (s : String) :
    spelling? t (asked ++ [s]) service = some found := by
  rw [spelling?] at h ⊢
  rw [List.find?_append, h, Option.some_or]

theorem spelling?_append_of_none {asked : List String} {service : String}
    (h : spelling? t asked service = none) (s : String) :
    spelling? t (asked ++ [s]) service =
      if Text.lower s == Text.lower service && t.hasService s then some s else none := by
  rw [spelling?] at h ⊢
  rw [List.find?_append, h, Option.none_or, List.find?_cons]
  cases Text.lower s == Text.lower service && t.hasService s with
  | true => rfl
  | false => rfl

/-- A spelling under which a service was found is one of the service, and the table has it. -/
theorem of_spelling? {asked : List String} {service s : String}
    (h : spelling? t asked service = some s) :
    s ∈ asked ∧ Text.lower s = Text.lower service ∧ t.hasService s = true := by
  have hs := List.find?_some h
  rw [Bool.and_eq_true, beq_iff_eq] at hs
  exact ⟨List.mem_of_find?_eq_some h, hs⟩

/-- What is known about a service after a name was asked for that is new. -/
theorem Remembers.of_none {asked : List String} {r : EndpointResolver}
    (h : Remembers t settings asked r) {service : String}
    (hnone : r.known.lookup (Text.lower service) = none) :
    spelling? t asked service = none := by
  rw [h.known] at hnone
  cases hs : spelling? t asked service with
  | none => rfl
  | some s =>
    have hok := (of_spelling? hs).2.2
    rw [← EndpointMetadata.isOk_ofTable t s settings] at hok
    rw [hs, Option.bind_some] at hnone
    cases hm : EndpointMetadata.ofTable t s settings with
    | ok m =>
      rw [hm] at hnone
      cases hnone
    | error d =>
      rw [hm] at hok
      cases hok

/-- A name adds nothing to what is known of the services under which it is not found first. -/
theorem Remembers.lookup_of_append {asked : List String} {r : EndpointResolver}
    (h : Remembers t settings asked r) {name service : String}
    (hnew : spelling? t asked service = none →
      (Text.lower name == Text.lower service && t.hasService name) = false) :
    r.known.lookup (Text.lower service) = (spelling? t (asked ++ [name]) service).bind fun s =>
      (EndpointMetadata.ofTable t s settings).toOption := by
  rw [h.known service]
  cases hs : spelling? t asked service with
  | some s => rw [spelling?_append_of_some hs]
  | none =>
    rw [spelling?_append_of_none hs, hnew hs]
    rfl

/-- A name for which something is known, in some spelling, is remembered already. -/
theorem Remembers.append_of_known {asked : List String} {r : EndpointResolver}
    (h : Remembers t settings asked r) {name : String} {m : EndpointMetadata}
    (hl : r.known.lookup (Text.lower name) = some m) :
    Remembers t settings (asked ++ [name]) r := by
  refine ⟨h.sameTable, h.sameSettings, fun service => h.lookup_of_append fun hs => ?_⟩
  have hne : (Text.lower name == Text.lower service) = false := by
    refine beq_false_of_ne fun heq => ?_
    have hservice := h.known service
    rw [← heq, hl, hs] at hservice
    cases hservice
  rw [hne, Bool.false_and]

/-- A name for which the table has nothing leaves nothing to remember. -/
theorem Remembers.append_of_error {asked : List String} {r : EndpointResolver}
    (h : Remembers t settings asked r) {name : String} {d : Defect}
    (hm : EndpointMetadata.ofTable r.table name r.settings = .error d) :
    Remembers t settings (asked ++ [name]) r := by
  rw [h.sameTable, h.sameSettings] at hm
  have hok := EndpointMetadata.isOk_ofTable t name settings
  rw [hm] at hok
  refine ⟨h.sameTable, h.sameSettings, fun service => h.lookup_of_append fun _ => ?_⟩
  rw [← hok]
  exact Bool.and_false _

/-- Metadata that are found for the first time are remembered for the spelling that was asked for. -/
theorem Remembers.append_of_found {asked : List String} {r : EndpointResolver}
    (h : Remembers t settings asked r) {name : String} {m : EndpointMetadata}
    (hl : r.known.lookup (Text.lower name) = none)
    (hm : EndpointMetadata.ofTable r.table name r.settings = .ok m) :
    Remembers t settings (asked ++ [name])
      { r with known := Entries.put (Text.lower name) m r.known } := by
  rw [h.sameTable, h.sameSettings] at hm
  have hok := EndpointMetadata.isOk_ofTable t name settings
  rw [hm] at hok
  refine ⟨h.sameTable, h.sameSettings, fun service => ?_⟩
  show (Entries.put (Text.lower name) m r.known).lookup (Text.lower service) = _
  rw [Entries.lookup_put]
  by_cases heq : Text.lower name = Text.lower service
  · have hnone : spelling? t asked service = none := h.of_none (heq ▸ hl)
    rw [spelling?_append_of_none hnone, ← hok, heq, beq_self_eq_true]
    exact congrArg Except.toOption hm.symm
  · rw [beq_false_of_ne (Ne.symm heq), if_neg Bool.false_ne_true]
    exact h.lookup_of_append fun _ => by rw [beq_false_of_ne heq, Bool.false_and]

/-- One more question is remembered. -/
theorem Remembers.metadata {asked : List String} {r : EndpointResolver}
    (h : Remembers t settings asked r) (name : String) :
    Remembers t settings (asked ++ [name]) (r.metadata name).2 := by
  rw [EndpointResolver.metadata]
  cases hl : r.known.lookup (Text.lower name) with
  | some m => exact h.append_of_known hl
  | none =>
    dsimp only
    cases hm : EndpointMetadata.ofTable r.table name r.settings with
    | error d => exact h.append_of_error hm
    | ok m => exact h.append_of_found hl hm

/-- A resolver remembers all questions that it was asked. -/
theorem Remembers.foldl_after {asked : List String} {r : EndpointResolver}
    (h : Remembers t settings asked r) (questions : List Question) :
    Remembers t settings (asked ++ questions.map Question.service) (questions.foldl after r) := by
  induction questions generalizing asked r with
  | nil => rwa [List.map_nil, List.append_nil]
  | cons q rest ih =>
    have hq : Remembers t settings (asked ++ [q.service]) (r.after q) := by
      rw [after_eq]
      exact h.metadata q.service
    have hrest := ih hq
    rw [List.append_assoc, List.singleton_append] at hrest
    exact hrest

/-! ### Answers -/

/-- The metadata that a resolver answers from. -/
theorem Remembers.metadata_eq {asked : List String} {r : EndpointResolver}
    (h : Remembers t settings asked r) (service : String) :
    (r.metadata service).1 =
      EndpointMetadata.ofTable t ((spelling? t asked service).getD service) settings := by
  have hlookup := h.known service
  rw [EndpointResolver.metadata, h.sameTable, h.sameSettings]
  cases hl : r.known.lookup (Text.lower service) with
  | none =>
    rw [h.of_none hl, Option.getD_none]
    cases hm : EndpointMetadata.ofTable t service settings with
    | ok m => rfl
    | error d => rfl
  | some m =>
    rw [hl] at hlookup
    obtain ⟨s, hs, hm⟩ := Option.bind_eq_some_iff.mp hlookup.symm
    rw [hs, Option.getD_some]
    cases hok : EndpointMetadata.ofTable t s settings with
    | ok m' =>
      rw [hok] at hm
      cases hm
      rfl
    | error d =>
      rw [hok] at hm
      cases hm

/-- Answers depend on the metadata of the service only. -/
theorem answers_congr {r r' : EndpointResolver} {service service' : String}
    (h : (r.metadata service).1 = (r'.metadata service').1) (region : String) :
    r.answers service region = r'.answers service' region := by
  have hask {α : Type} (question : EndpointMetadata → Except Failure α) :
      (r.ask question service).1 = (r'.ask question service').1 := by
    rw [ask, ask]
    generalize r.metadata service = p at h
    generalize r'.metadata service' = p' at h
    obtain ⟨m?, after⟩ := p
    obtain ⟨m'?, after'⟩ := p'
    obtain rfl : m? = m'? := h
    cases m? with
    | ok m => rfl
    | error d => rfl
  simp only [answers, endpointFor, endpointUrl, signingRegionFor, hask]

theorem metadata_fresh (t : PartitionTable) (settings : RegionSettings) (service : String) :
    ((fresh t settings).metadata service).1 = EndpointMetadata.ofTable t service settings := by
  have h := (remembers_fresh t settings).metadata_eq service
  rwa [spelling?, List.find?_nil, Option.getD_none] at h

/-- A resolver that was asked questions answers as a fresh one does for the spelling under which
the service was found first. If no question spelled it in another way than this one, these are the
fresh answers for the service, which come from the metadata that the table gives for it. -/
theorem answers_after (t : PartitionTable) (settings : RegionSettings) (questions : List Question)
    (service region : String) :
    (questions.foldl after (fresh t settings)).answers service region =
      (fresh t settings).answers
        ((spelling? t (questions.map Question.service) service).getD service) region ∧
    ((∀ q ∈ questions, Text.lower q.service = Text.lower service → q.service = service) →
      (questions.foldl after (fresh t settings)).answers service region =
        (fresh t settings).answers service region ∧
      ((questions.foldl after (fresh t settings)).metadata service).1 =
        EndpointMetadata.ofTable t service settings) := by
  have h := (remembers_fresh t settings).foldl_after questions
  rw [List.nil_append] at h
  have hmetadata := h.metadata_eq service
  refine ⟨answers_congr ?_ region, fun hspelled => ?_⟩
  · rw [hmetadata, metadata_fresh]
  · have hsame : (spelling? t (questions.map Question.service) service).getD service = service := by
      cases hs : spelling? t (questions.map Question.service) service with
      | none => rfl
      | some s =>
        obtain ⟨hmem, hlower, -⟩ := of_spelling? hs
        obtain ⟨q, hq, rfl⟩ := List.mem_map.mp hmem
        exact hspelled q hq hlower
    rw [hsame] at hmetadata
    exact ⟨answers_congr (hmetadata.trans (metadata_fresh t settings service).symm) region,
      hmetadata⟩

/-- A table with one service, which has no endpoints of its own. -/
def storage : PartitionTable where
  partitions :=
    [{ name := .str "aws", dnsSuffix := .str "amazonaws.com", rule := .absent .null, regions := []
       services := [("s3", [])] }]

/-- Questions about a service in one spelling, and about one that the table does not have. -/
theorem answers_after_storage :
    ([.metadata "ec2", .endpointUrl "s3" "us-east-1"].foldl after (fresh storage {})).answers
        "s3" "us-west-2" =
      (fresh storage {}).answers "s3" "us-west-2" := by
  have hspelled : ∀ q ∈ [Question.metadata "ec2", .endpointUrl "s3" "us-east-1"],
      Text.lower q.service = Text.lower "s3" → q.service = "s3" := by
    intro q hq hlower
    rcases List.mem_cons.mp hq with rfl | hq
    · have hne : Text.lower "ec2" ≠ Text.lower "s3" := by decide
      exact absurd hlower hne
    · rw [List.mem_singleton.mp hq]
      rfl
  exact ((answers_after storage {} _ "s3" "us-west-2").2 hspelled).1

/-- After a question about a service in capitals a resolver answers with capitals. -/
theorem answers_after_capitals :
    ([.endpointFor "S3" "us-east-1"].foldl after (fresh storage {})).answers "s3" "us-east-1" ≠
      (fresh storage {}).answers "s3" "us-east-1" := by
  have hcapitals : ((([.endpointFor "S3" "us-east-1"].foldl after (fresh storage {})).endpointFor
      "s3" "us-east-1").1) = .ok (.str "S3.us-east-1.amazonaws.com") := by rfl
  have hfresh : ((fresh storage {}).endpointFor "s3" "us-east-1").1 =
      .ok (.str "s3.us-east-1.amazonaws.com") := by rfl
  intro h
  rw [answers, answers, hcapitals, hfresh, Prod.mk.injEq] at h
  exact absurd (Value.str.inj (Except.ok.inj h.1)) (by decide)

end EndpointResolver

end ServiceWire
