import ServiceWire.CommandLine.Run
import ServiceWire.Proofs.Endpoint.Readable
import ServiceWire.Proofs.Host.Files
import ServiceWire.Proofs.Model.Description
import ServiceWire.Yaml.Reader

/-!
# Input files

What the program does with an input file that is not as it should be. If what a table or a
description says can be read, all that is wrong with it is a defect, and the program tells about a
defect and ends with code 1. A document that cannot be read is not loaded either, but it may be a
failure, which the program leaves to its host; so it does with a folder in the place of a file, and
with what the reader of YAML meets other than a text of the wrong form. Either way no file is
changed.
-/

namespace ServiceWire

/-! ### Tables and models in files -/

/-- Why no table is loaded from a file. -/
def PartitionTable.RefusedIn (yaml : YamlReader) (t : FileTree) (path : FilePath) :
    WireError → Prop :=
  t.Refused yaml path (.tableFileMissing path.text) (.tableFileMalformed path.text)
    PartitionTable.load

namespace ServiceModel

/-- The model that the document in a file gives. -/
def ofDocument (path : FilePath) : Json → Except Fault ServiceModel
  | .object fields => load (.object fields)
  | _ => .error (.defect (.modelFileNotMapping path.text))

/-- Why no model is loaded from a file. -/
def RefusedIn (yaml : YamlReader) (t : FileTree) (path : FilePath) : WireError → Prop :=
  t.Refused yaml path (.modelFileMissing path.text) (.modelFileMalformed path.text)
    (ofDocument path)

/-- A model is loaded from a file. -/
def LoadedIn (yaml : YamlReader) (t : FileTree) (path : FilePath) : Prop :=
  ∃ d m, t.Holds yaml path d ∧ ofDocument path d = .ok m

/-- A description that can be read is loaded or found defective. -/
theorem exists_defect_of_ofDocument {path : FilePath} {d : Json} {fault : Fault}
    (readable : Readable d) (h : ofDocument path d = .error fault) :
    ∃ defect, fault = .defect defect := by
  cases d with
  | object fields => exact (noFailure_load readable).exists_defect h
  | _ =>
    cases h
    exact ⟨_, rfl⟩

end ServiceModel

section Host

variable (yaml : YamlReader) (keep : LogEntry → Bool) {s : Machine} {path : FilePath}
  {e : WireError}

/-- Where no table is loaded from a file, the error says why, and nothing else is done. -/
theorem run_loadTable_of_refused (h : PartitionTable.RefusedIn yaml s.tree path e) :
    (PartitionTable.loadFile (Machine.keeping yaml keep) path).run.run s = (.error e, s) := by
  rcases run_document_of_refused yaml keep h with hread | ⟨d, fault, hread, hload, rfl⟩
  · exact Action.run_bind_of_error hread
  · refine (Action.run_bind_of_ok hread).trans (Action.run_bind_of_error ?_)
    rw [Action.run_ofFault, hload]
    rfl

/-- Where no model is loaded from a file, the error says why, and nothing else is done. -/
theorem run_loadModel_of_refused (h : ServiceModel.RefusedIn yaml s.tree path e) :
    (ServiceModel.loadFile (Machine.keeping yaml keep) path).run.run s = (.error e, s) := by
  rcases run_document_of_refused yaml keep h with hread | ⟨d, fault, hread, hload, rfl⟩
  · exact Action.run_bind_of_error hread
  · refine (Action.run_bind_of_ok hread).trans ?_
    cases d with
    | object fields =>
      refine Action.run_bind_of_error ?_
      have hload : ServiceModel.load (.object fields) = .error fault := hload
      rw [Action.run_ofFault, hload]
      rfl
    | _ =>
      cases hload
      rfl

/-- A model that can be loaded is loaded, and the files stay as they are. -/
theorem run_loadModel_of_loaded (h : ServiceModel.LoadedIn yaml s.tree path) :
    ∃ m s', (ServiceModel.loadFile (Machine.keeping yaml keep) path).run.run s = (.ok m, s') ∧
      s'.tree = s.tree := by
  obtain ⟨d, m, holds, hm⟩ := h
  cases d with
  | object fields =>
    have hload : (Action.ofFault (ServiceModel.load (.object fields)) :
        Action (StateM Machine) ServiceModel).run.run s = (.ok m, s) := by
      have hm : ServiceModel.load (.object fields) = .ok m := hm
      rw [Action.run_ofFault, hm]
      rfl
    rw [ServiceModel.loadFile, Action.run_bind_of_ok (run_document_of_holds yaml keep holds)]
    dsimp only
    rw [Action.run_bind_of_ok hload, Action.run_bind_of_ok (Machine.run_liftM_log yaml keep _)]
    exact ⟨m, _, rfl, Machine.tree_noted keep s _⟩
  | _ => cases hm

/-- Models are loaded one after the other, up to the first that is not loaded. -/
theorem run_loadModels_of_refused {before after : List String} {file : String}
    (loaded : ∀ f ∈ before, ServiceModel.LoadedIn yaml s.tree (.ofText f))
    (h : ServiceModel.RefusedIn yaml s.tree (.ofText file) e) :
    ∃ s', ((before ++ file :: after).mapM fun f =>
      ServiceModel.loadFile (Machine.keeping yaml keep) (.ofText f)).run.run s = (.error e, s') ∧
        s'.tree = s.tree := by
  induction before generalizing s with
  | nil =>
    refine ⟨s, ?_, rfl⟩
    rw [List.nil_append, List.mapM_cons,
      Action.run_bind_of_error (run_loadModel_of_refused yaml keep h)]
  | cons f rest ih =>
    obtain ⟨m, s', hm, htree⟩ :=
      run_loadModel_of_loaded yaml keep (loaded f (List.mem_cons_self ..))
    -- The other files are as they were, so that the next one is read as it would have been first.
    rw [← htree] at loaded h
    obtain ⟨s'', hrest, htree'⟩ := ih (fun g hg => loaded g (List.mem_cons_of_mem _ hg)) h
    refine ⟨s'', ?_, htree'.trans htree⟩
    rw [List.cons_append, List.mapM_cons, Action.run_bind_of_ok hm,
      Action.run_bind_of_error hrest]

end Host

namespace CommandLine

/-! ### Runs -/

/-- The text that a command has for its endpoint table, if it needs one. -/
def Command.partitions? : Command → Option String
  | .endpoint partitions .. | .metadata partitions .. => some partitions
  | .marshallers .. => none

/-- The names of the files with the models of a command. -/
def Command.models : Command → List String
  | .marshallers files .. => files
  | .endpoint .. | .metadata .. => []

/-- The file of an endpoint table: the one that a command gives, or else that of the settings. -/
def tableFile (s : Settings) (partitions : String) : Value :=
  (Value.str partitions).orElse s.regions.partitionsFile

/-- Why the first input of a command that is not loaded is not loaded. -/
inductive Refused (yaml : YamlReader) (t : FileTree) (s : Settings) : Command → WireError → Prop
  | table {c : Command} {partitions : String} {path : FilePath} {e : WireError}
      (asks : c.partitions? = some partitions) (given : (tableFile s partitions).truthy = true)
      (file : FilePath.ofValue (tableFile s partitions) = .ok path)
      (refused : PartitionTable.RefusedIn yaml t path e) : Refused yaml t s c e
  | models {before after : List String} {file output package : String} {e : WireError}
      (loaded : ∀ f ∈ before, ServiceModel.LoadedIn yaml t (.ofText f))
      (refused : ServiceModel.RefusedIn yaml t (.ofText file) e) :
      Refused yaml t s (.marshallers (before ++ file :: after) output package) e

/-- The input files of a command can be read, and so can what their documents say. -/
structure ReadableInputs (yaml : YamlReader) (t : FileTree) (s : Settings) (c : Command) :
    Prop where
  table : ∀ partitions path, c.partitions? = some partitions →
    FilePath.ofValue (tableFile s partitions) = .ok path →
      t.Readable yaml path PartitionTable.Readable
  models : ∀ file ∈ c.models, t.Readable yaml (.ofText file) ServiceModel.Readable

/-- The settings of an invocation. -/
def HasSettings (yaml : YamlReader) (i : Invocation) (machine : Machine) (s : Settings) : Prop :=
  (settings (Machine.host yaml) i).run.run machine = (.ok s, machine)

/-- How the program ends with an error. -/
def ending : WireError → Except Failure Outcome
  | .failure f => .error f
  | _ => .ok { code := 1 }

/-- The machine after the program has told about an error. It does not tell about a failure. -/
def told (i : Invocation) (s : Machine) : WireError → Machine
  | .failure _ => s
  | e => s.noted i.keeps ⟨.error, .system, component, s!"shapewire-codegen failed: {e.text}"⟩

theorem tree_told (i : Invocation) (s : Machine) (e : WireError) : (told i s e).tree = s.tree := by
  cases e with
  | failure f => rfl
  | _ => exact Machine.tree_noted ..

section Run

variable {yaml : YamlReader} {i : Invocation} {machine machine' : Machine} {s : Settings}
  {e : WireError}

theorem run_table_of_refused (keep : LogEntry → Bool) {partitions : String} {path : FilePath}
    (given : (tableFile s partitions).truthy = true)
    (file : FilePath.ofValue (tableFile s partitions) = .ok path)
    (refused : PartitionTable.RefusedIn yaml machine.tree path e) :
    (table (Machine.keeping yaml keep) s partitions).run.run machine = (.error e, machine) := by
  have hpath : (Action.ofFault ((FilePath.ofValue (tableFile s partitions)).mapError .failure) :
      Action (StateM Machine) FilePath).run.run machine = (.ok path, machine) := by
    rw [file]
    rfl
  rw [tableFile] at given
  rw [table]
  simp only [given, Bool.not_true, Bool.false_eq_true, if_false]
  exact (Action.run_bind_of_ok hpath).trans (run_loadTable_of_refused yaml keep refused)

/-- Where an input is not loaded, nothing is done but to read inputs. -/
theorem perform_of_refused (hs : HasSettings yaml i machine s)
    (h : Refused yaml machine.tree s i.command e) :
    ∃ machine', (perform (Machine.keeping yaml i.keeps) i).run.run machine = (.error e, machine') ∧
      machine'.tree = machine.tree := by
  have hsettings : (settings (Machine.keeping yaml i.keeps) i).run.run machine =
      (.ok s, machine) := hs
  rw [perform, Action.run_bind_of_ok hsettings]
  generalize i.command = c at h
  cases h with
  | table asks given file refused =>
    have htable := run_table_of_refused i.keeps given file refused
    refine ⟨machine, ?_, rfl⟩
    cases c with
    | endpoint | metadata =>
      cases asks
      exact Action.run_bind_of_error htable
    | marshallers => cases asks
  | models loaded refused =>
    obtain ⟨machine', hmodels, htree⟩ := run_loadModels_of_refused yaml i.keeps loaded refused
    exact ⟨machine', Action.run_bind_of_error hmodels, htree⟩

/-- The program ends with the first error, and tells about it. -/
theorem run_of_error (h : (perform (Machine.keeping yaml i.keeps) i).run.run machine =
      (.error e, machine')) :
    (run (Machine.host yaml) i).run machine = (ending e, told i machine' e) := by
  rw [run, StateT.run_bind, h]
  cases e with
  | failure f => rfl
  | _ =>
    refine (StateT.run_bind ..).trans ?_
    rw [Machine.run_log]
    rfl

/-- Where an input is not loaded, the program ends with the error that says why, and changes no
file. -/
theorem run_of_refused (hs : HasSettings yaml i machine s)
    (h : Refused yaml machine.tree s i.command e) :
    ∃ machine', (run (Machine.host yaml) i).run machine = (ending e, machine') ∧
      machine'.tree = machine.tree := by
  obtain ⟨machine', hperform, htree⟩ := perform_of_refused hs h
  exact ⟨_, run_of_error hperform, (tree_told i machine' e).trans htree⟩

/-- Where all inputs can be read, an input that is not loaded is defective. -/
theorem exists_defect_of_refused {t : FileTree} {c : Command} (hr : ReadableInputs yaml t s c)
    (h : Refused yaml t s c e) : ∃ d, e = .configuration d := by
  cases h with
  | table asks given file refused =>
    exact FileTree.Refused.exists_defect refused (hr.table _ _ asks file) fun d fault hd hload =>
      (PartitionTable.noFailure_load hd).exists_defect hload
  | models loaded refused =>
    have readable := hr.models _ (List.mem_append_right _ (List.mem_cons_self ..))
    exact FileTree.Refused.exists_defect refused readable fun d fault hd hload =>
      ServiceModel.exists_defect_of_ofDocument hd hload

end Run

/-- Endpoint tables and descriptions of services are loaded, or found defective, if what they say
can be read, and are never loaded otherwise. Where an input is not loaded, whatever reads YAML, the
program changes no file and ends with the error that says why: with code 1, unless a file or its
document cannot be read. -/
theorem inputs_loaded_or_defective (yaml : YamlReader) (fields : List (String × Json))
    (i : Invocation) (machine : Machine) (s : Settings) (e : WireError) :
    ((PartitionTable.Readable (.object fields) →
        (∃ t, PartitionTable.load (.object fields) = .ok t) ∨
          ∃ d, PartitionTable.load (.object fields) = .error (.defect d)) ∧
      (¬PartitionTable.Readable (.object fields) →
        ∃ fault, PartitionTable.load (.object fields) = .error fault)) ∧
    ((ServiceModel.Readable (.object fields) →
        (∃ m, ServiceModel.load (.object fields) = .ok m) ∨
          ∃ d, ServiceModel.load (.object fields) = .error (.defect d)) ∧
      (¬ServiceModel.Readable (.object fields) →
        ∃ fault, ServiceModel.load (.object fields) = .error fault)) ∧
    (HasSettings yaml i machine s → Refused yaml machine.tree s i.command e →
      (∃ machine', (run (Machine.host yaml) i).run machine = (ending e, machine') ∧
        machine'.tree = machine.tree) ∧
      (ReadableInputs yaml machine.tree s i.command → ending e = .ok { code := 1 })) := by
  refine ⟨⟨fun h => ?_, fun h => ?_⟩, ⟨fun h => ?_, fun h => ?_⟩,
    fun hs h => ⟨run_of_refused hs h, fun hr => ?_⟩⟩
  · exact (PartitionTable.noFailure_load h).exists_ok_or_defect
  · cases hload : PartitionTable.load (.object fields) with
    | ok t => exact absurd (PartitionTable.readable_of_load hload) h
    | error fault => exact ⟨fault, rfl⟩
  · exact (ServiceModel.noFailure_load h).exists_ok_or_defect
  · cases hload : ServiceModel.load (.object fields) with
    | ok m => exact absurd (ServiceModel.readable_of_load hload) h
    | error fault => exact ⟨fault, rfl⟩
  · obtain ⟨d, rfl⟩ := exists_defect_of_refused hr h
    rfl

/-- A machine with a file for an endpoint table. -/
def desk (text : String) : Machine where
  tree := { files := [(.ofText "t.json", text)] }

/-- The question for an endpoint of that table. -/
def lookUp : Invocation where
  command := .endpoint "t.json" "files" "n1"

theorem hasSettings_desk (yaml : YamlReader) (text : String) :
    HasSettings yaml lookUp (desk text) {} := by
  have hget : (Settings.Shared.get { environment := [] }).1 = .ok {} := by rfl
  have henv : (liftM (Machine.host yaml).environment :
      Action (StateM Machine) (List (String × String))).run.run (desk text) =
        (.ok [], desk text) := rfl
  rw [HasSettings, settings, if_pos (by rfl), Action.run_bind_of_ok henv, Action.run_ofFault, hget]
  rfl

theorem read_desk (text : String) : (desk text).tree.read (.ofText "t.json") = .ok text := by
  simp [desk, FileTree.read]

theorem isJson_desk : (FilePath.ofText "t.json").isJson = true := by decide +kernel

theorem holds_desk_iff {yaml : YamlReader} {text : String} {d : Json} :
    (desk text).tree.Holds yaml (.ofText "t.json") d ↔ readDocument yaml true text = .ok d := by
  simp only [FileTree.Holds, read_desk, isJson_desk, Except.ok.injEq, exists_eq_left']

theorem refused_desk {yaml : YamlReader} {text : String} {d : Json} {fault : Fault}
    (hd : readDocument yaml true text = .ok d) (h : PartitionTable.load d = .error fault) :
    Refused yaml (desk text).tree {} lookUp.command fault.toError :=
  .table rfl rfl rfl (.unloaded (holds_desk_iff.mpr hd) h)

/-- A partition without a DNS suffix, as a text and as a document. -/
def unfinishedText : String := "\x7b\"partitions\":[\x7b\"partition\":\"north\"\x7d]\x7d"

def unfinished : List (String × Json) :=
  [("partitions", .array [.object [("partition", .str "north")]])]

theorem readDocument_unfinished (yaml : YamlReader) :
    readDocument yaml true unfinishedText = .ok (.object unfinished) := by cbv

theorem readable_unfinished : PartitionTable.Readable (.object unfinished) := by
  rintro items hitems p hp
  cases hitems
  obtain rfl := List.mem_singleton.mp hp
  refine ⟨_, rfl, ?_⟩
  constructor
  all_goals simp [List.lookup, Json.IfGiven, Json.fieldsOf]

theorem readableInputs_unfinished (yaml : YamlReader) :
    ReadableInputs yaml (desk unfinishedText).tree {} lookUp.command := by
  refine ⟨fun partitions path asks file => ?_, nofun⟩
  cases asks
  cases file
  constructor
  case isFile =>
    intro k h
    rw [read_desk] at h
    cases h
  case form =>
    intro text k hread h
    rw [read_desk] at hread
    cases hread
    rw [isJson_desk, readDocument_unfinished] at h
    cases h
  case document =>
    intro d holds
    have hd := (holds_desk_iff.mp holds).symm.trans (readDocument_unfinished yaml)
    rw [Except.ok.inj hd]
    exact readable_unfinished

/-- A table with a number for a partition. -/
def numbered : List (String × Json) := [("partitions", .array [.int 5])]

/-- A description of one shape with a kind. -/
def oneShape (kind : Json) : List (String × Json) :=
  [("shapes", .object [("Name", .object [("type", kind)])])]

theorem readable_oneShape (kind : String) :
    ServiceModel.Readable (.object (oneShape (.str kind))) := by
  have typed : Definitions.TypedTable [("Name", .object [("type", .str kind)])] := by
    refine ⟨List.nodup_singleton _, fun p hp => ?_⟩
    obtain rfl := List.mem_singleton.mp hp
    refine ⟨_, rfl, ?_⟩
    constructor
    all_goals simp [List.lookup]
  exact
    { metadata := Json.ifGiven_of_filter_eq_none rfl
      shapes := typed.readable
      operations := nofun
      customizations := Json.ifGiven_of_filter_eq_none rfl
      rootOutputs := fun _ h => by
        cases h
        exact Json.ifGiven_of_filter_eq_none rfl }

/-- A partition without a DNS suffix and a shape of an odd kind are defects, and the program ends
with code 1. A number for a partition and a list for a kind cannot be read. -/
theorem inputs_loaded_or_defective_unfinished :
    ((∃ d, PartitionTable.load (.object unfinished) = .error (.defect d)) ∧
      ∃ fault, PartitionTable.load (.object numbered) = .error fault) ∧
    ((∃ d, ServiceModel.load (.object (oneShape (.str "odd"))) = .error (.defect d)) ∧
      ∃ fault, ServiceModel.load (.object (oneShape (.array []))) = .error fault) ∧
    ∃ machine', (run (Machine.host Yaml.reader) lookUp).run (desk unfinishedText) =
      (.ok { code := 1 }, machine') := by
  obtain ⟨table, -, program⟩ := inputs_loaded_or_defective Yaml.reader unfinished lookUp
    (desk unfinishedText) {} (.configuration (.partitionKeyMissing "dnsSuffix"))
  have spoilt (fields : List (String × Json)) :=
    inputs_loaded_or_defective Yaml.reader fields lookUp (desk "") {} (.failure (.plain .type))
  refine ⟨⟨?_, (spoilt numbered).1.2 fun h => ?_⟩,
    ⟨?_, (spoilt (oneShape (.array []))).2.1.2 fun h => ?_⟩, ?_⟩
  · rcases table.1 readable_unfinished with ⟨t, h⟩ | h
    · cases h
    · exact h
  · obtain ⟨fields, h, -⟩ := h _ rfl (.int 5) (List.mem_singleton.mpr rfl)
    cases h
  · rcases (spoilt (oneShape (.str "odd"))).2.1.1 (readable_oneShape "odd") with ⟨m, h⟩ | h
    · cases h
    · exact h
  · exact absurd (h.shapes.type "Name" _ rfl (.array []) rfl) Bool.false_ne_true
  · have refused := refused_desk (readDocument_unfinished Yaml.reader) rfl
    obtain ⟨⟨machine', hrun, -⟩, hending⟩ := program (hasSettings_desk _ _) refused
    rw [hending (readableInputs_unfinished Yaml.reader)] at hrun
    exact ⟨machine', hrun⟩

/-- It is not so that each mapping is loaded or found defective: a number for a partition is a
failure, which the program does not tell about. -/
theorem load_numbered :
    (¬∀ fields, (∃ t, PartitionTable.load (.object fields) = .ok t) ∨
      ∃ d, PartitionTable.load (.object fields) = .error (.defect d)) ∧
    ∃ machine', (run (Machine.host Yaml.reader) lookUp).run (desk "\x7b\"partitions\":[5]\x7d") =
      (.error (.plain .type), machine') := by
  refine ⟨fun h => ?_, ?_⟩
  · rcases h numbered with ⟨t, ht⟩ | ⟨d, hd⟩
    · cases ht
    · cases hd
  · have hread : readDocument Yaml.reader true "\x7b\"partitions\":[5]\x7d" =
        .ok (.object numbered) := by cbv
    obtain ⟨machine', hrun, -⟩ := run_of_refused (hasSettings_desk _ _) (refused_desk hread rfl)
    exact ⟨machine', hrun⟩

end CommandLine

end ServiceWire
