import ServiceWire.Proofs.Codegen.Attempts
import ServiceWire.Proofs.Host.Ends
import ServiceWire.Yaml.Reader

/-!
# Generating all modules, whatever fails

What comes of writing a module depends on its source and on the file system alone: the file is
written, the system fails, or the source has no file. The table decides whether an endpoint module
has one, so that of two attempts for the same service both succeed or none, and the results say of
each name whether all attempts under it succeeded.

The errors that do not stay with their task are those of the file system at an endpoint module,
those of a model that has no request module because its name is no text or its protocol is no key,
and that of a model whose name is no key of the results, when the file system fails at its request
module.
-/

namespace ServiceWire

namespace Codegen

variable {σ : Type} (host : Host (StateM σ)) (g : CodeGenerator) (folder : FilePath)

/-! ### Writing a module -/

/-- What comes of writing a module into a folder: its file is written, the system fails, or there
is no file to write. -/
inductive ModuleSource.Outcome (m : ModuleSource) : Except WireError FilePath → Prop
  | written {name text : String} (h : m.file = .ok (name, text)) :
      Outcome m (.ok (folder.join (.ofText name)))
  | refused {k : FailureKind} (h : host.Fails k) : Outcome m (.error (.failure (.plain k)))
  | unmade {f : Fault} (h : m.file = .error f) : Outcome m (.error f.toError)

variable {host folder} in
theorem ModuleSource.Outcome.exists_file {m : ModuleSource} {r : Except WireError FilePath}
    (h : m.Outcome host folder r) (hr : r.isOk = true) :
    ∃ name text, m.file = .ok (name, text) := by
  cases h with
  | written h => exact ⟨_, _, h⟩
  | refused h => cases hr
  | unmade h => cases hr

section Writing

variable (s : σ)

theorem writeFile_ends (path : FilePath) (text : String) :
    (writeFile host path text).Ends s fun r _ =>
      r = .ok path ∨ ∃ k, host.Fails k ∧ r = .error (.failure (.plain k)) := by
  refine .bind (Action.ends_ofHost (fun _ s₁ _ => ?_) fun k _ h => .inr ⟨k, .folders h, rfl⟩)
  refine .bind (Action.ends_ofHost (fun _ s₂ _ => ?_) fun k _ h => .inr ⟨k, .text h, rfl⟩)
  exact .bind (Action.ends_liftM (.inl rfl))

theorem makePackage_ends (config : GeneratorConfig) :
    (makePackage host config folder).Ends s fun r _ =>
      r = .ok () ∨ ∃ k, host.Fails k ∧ r = .error (.failure (.plain k)) := by
  refine .bind (Action.ends_ofHost (fun _ s₁ _ => ?_) fun k _ h => .inr ⟨k, .folders h, rfl⟩)
  refine .bind (Action.ends_liftM ?_)
  dsimp only
  split
  · exact .inl rfl
  · refine .bind ((writeFile_ends host _ _ _).mono fun r s' h => ?_)
    rcases h with rfl | ⟨k, hk, rfl⟩
    · exact .inl rfl
    · exact .inr ⟨k, hk, rfl⟩

theorem writeModule_ends (config : GeneratorConfig) (m : ModuleSource) :
    (writeModule host config folder m).Ends s fun r _ => m.Outcome host folder r := by
  have hwrite (s₁ : σ) : (Action.ofFault m.file >>= fun file =>
      writeFile host (folder.join (.ofText file.1)) file.2).Ends s₁
        fun r _ => m.Outcome host folder r := by
    refine .bind (Action.ends_ofFault ?_)
    cases hfile : m.file with
    | error f => exact .unmade hfile
    | ok file =>
      refine (writeFile_ends host s₁ _ _).mono fun r _ h => ?_
      rcases h with rfl | ⟨k, hk, rfl⟩
      · exact .written hfile
      · exact .refused hk
  unfold writeModule
  split
  · refine .bind ((makePackage_ends host folder s config).mono fun r s₁ h => ?_)
    rcases h with rfl | ⟨k, hk, rfl⟩
    · exact hwrite s₁
    · exact .refused hk
  · exact hwrite s

end Writing

/-! ### The sources -/

theorem EndpointModule.exists_defect_of_source {config : GeneratorConfig} {t : PartitionTable}
    {service : String} {f : Fault} (h : (source config t service).file = .error f) :
    ∃ d, f = .defect d := by
  unfold source at h
  dsimp only at h
  cases hrender : render config t service with
  | ok text =>
    rw [hrender] at h
    cases h
  | error d =>
    rw [hrender] at h
    cases h
    exact ⟨d, rfl⟩

/-- What fails for a list fails for one of its items. -/
theorem exists_error_of_mapM {ε α β : Type} {f : α → Except ε β} {items : List α} {e : ε}
    (h : items.mapM f = .error e) : ∃ a ∈ items, f a = .error e := by
  induction items with
  | nil => cases h
  | cons a rest ih =>
    rw [List.mapM_cons] at h
    cases ha : f a with
    | error e' =>
      rw [ha] at h
      cases h
      exact ⟨a, List.mem_cons_self .., ha⟩
    | ok b =>
      rw [ha, ok_bind] at h
      cases hrest : rest.mapM f with
      | error e' =>
        rw [hrest] at h
        cases h
        obtain ⟨c, hc, hfc⟩ := ih hrest
        exact ⟨c, List.mem_cons_of_mem _ hc, hfc⟩
      | ok bs =>
        rw [hrest] at h
        cases h

theorem exists_operation {m : ServiceModel} {name : String} (h : name ∈ m.operationNames) :
    ∃ o, m.operation (.str name) = .ok o := by
  unfold ServiceModel.operationNames at h
  rw [List.mem_mergeSort, Entries.mem_keys_iff, Option.isSome_iff_exists] at h
  obtain ⟨o, ho⟩ := h
  have hkey : (Value.str name).asKey.mapError Fault.failure = .ok (.str name) := by
    rw [Value.asKey_str]
    rfl
  refine ⟨o, ?_⟩
  unfold ServiceModel.operation
  rw [hkey, ok_bind]
  dsimp only
  rw [ho]
  rfl

theorem RequestModule.failure_of_displayName {protocol : Value} {f : Failure}
    (h : displayName protocol = .error f) : f = .plain .type ∧ protocol.isKey = false := by
  unfold displayName at h
  split at h
  · cases h
  · unfold Value.asKey at h
    split at h
    · cases h
    · rename_i hkey
      cases h
      exact ⟨rfl, by simpa using hkey⟩

/-- A model has no request module only if its name is no text or its protocol is no key. -/
theorem RequestModule.fault_of_source {config : GeneratorConfig} {m : ServiceModel} {f : Fault}
    (h : (source config m).file = .error f) :
    (f = .failure (.plain .attribute) ∧ ∀ name, m.serviceName ≠ .str name) ∨
      (f = .failure (.plain .type) ∧ m.protocol.isKey = false) := by
  unfold source at h
  dsimp only at h
  cases hmodule : moduleNameOf m.serviceName "marshallers" with
  | error e =>
    rw [hmodule] at h
    cases h
    unfold moduleNameOf at hmodule
    split at hmodule
    · cases hmodule
    · rename_i hname
      cases hmodule
      exact .inl ⟨rfl, hname⟩
  | ok module =>
    rw [hmodule] at h
    cases hclasses : m.operationNames.mapM (classOf m) with
    | ok classes =>
      rw [hclasses] at h
      cases h
    | error e =>
      rw [hclasses] at h
      cases h
      obtain ⟨name, hmem, hclass⟩ := exists_error_of_mapM hclasses
      obtain ⟨o, ho⟩ := exists_operation hmem
      unfold classOf at hclass
      rw [ho, ok_bind] at hclass
      cases hdisplay : displayName m.protocol with
      | ok display =>
        rw [hdisplay] at hclass
        cases hclass
      | error e =>
        rw [hdisplay] at hclass
        cases hclass
        obtain ⟨rfl, hkey⟩ := failure_of_displayName hdisplay
        exact .inr ⟨rfl, hkey⟩

/-- What fails for a model without a request module is no file system. -/
theorem RequestModule.exists_failure_of_source {config : GeneratorConfig} {m : ServiceModel}
    {f : Fault} (h : (source config m).file = .error f) :
    ∃ k, k.isSystem = false ∧ f = .failure (.plain k) := by
  rcases fault_of_source h with ⟨rfl, -⟩ | ⟨rfl, -⟩
  · exact ⟨.attribute, rfl, rfl⟩
  · exact ⟨.type, rfl, rfl⟩

/-- A request module has the name of a service, which is a text. -/
theorem RequestModule.exists_name_of_file {config : GeneratorConfig} {m : ServiceModel}
    {name text : String} (h : (source config m).file = .ok (name, text)) :
    ∃ s, m.serviceName = .str s ∧ name = fileName (moduleName s "marshallers") := by
  unfold source at h
  obtain ⟨module, hmodule, h⟩ := exists_of_bind h
  obtain ⟨classes, -, h⟩ := exists_of_bind h
  have hname : fileName module = name := (Prod.mk.inj (Except.ok.inj h)).1
  have hmodule := exists_of_mapError hmodule
  unfold moduleNameOf at hmodule
  split at hmodule
  · rename_i service hservice
    exact ⟨service, hservice, by rw [← hname, ← Except.ok.inj hmodule]⟩
  · cases hmodule

/-! ### Errors that do not stay -/

/-- What ends the generation of all modules, with the error that it ends with. -/
inductive Attempt.Escapes (config : GeneratorConfig) (a : Attempt) : WireError → Prop
  /-- The file system fails at an endpoint module. -/
  | system {service : String} {k : FailureKind} (task : a.task = .endpoints service)
      (kind : k.isSystem = true) (outcome : a.outcome = .error (.failure (.plain k))) :
      Escapes config a (.failure (.plain k))
  /-- A model has no request module. -/
  | unmade {model : ServiceModel} {f : Fault} (task : a.task = .requests model)
      (file : (RequestModule.source config model).file = .error f)
      (outcome : a.outcome = .error f.toError) : Escapes config a f.toError
  /-- The file system fails at a request module, and the name of the model is no key. -/
  | misnamed {model : ServiceModel} {k : FailureKind} (task : a.task = .requests model)
      (kind : k.isSystem = true) (outcome : a.outcome = .error (.failure (.plain k)))
      (name : model.serviceName.isKey = false) : Escapes config a (.failure (.plain .type))

theorem Attempt.escapes_endpoints_iff {config : GeneratorConfig} {service : String}
    {outcome : Except WireError FilePath} {e : WireError} :
    Escapes config ⟨.endpoints service, outcome⟩ e ↔
      ∃ k : FailureKind, k.isSystem = true ∧ outcome = .error (.failure (.plain k)) ∧
        e = .failure (.plain k) := by
  constructor
  · intro h
    cases h with
    | system task kind outcome => exact ⟨_, kind, outcome, rfl⟩
    | unmade task => cases task
    | misnamed task => cases task
  · rintro ⟨k, kind, rfl, rfl⟩
    exact .system rfl kind rfl

theorem Attempt.escapes_requests_iff {config : GeneratorConfig} {model : ServiceModel}
    {outcome : Except WireError FilePath} {e : WireError} :
    Escapes config ⟨.requests model, outcome⟩ e ↔
      (∃ f, (RequestModule.source config model).file = .error f ∧ outcome = .error f.toError ∧
        e = f.toError) ∨
      ∃ k : FailureKind, k.isSystem = true ∧ outcome = .error (.failure (.plain k)) ∧
        model.serviceName.isKey = false ∧ e = .failure (.plain .type) := by
  constructor
  · intro h
    cases h with
    | system task => cases task
    | unmade task file outcome =>
      cases task
      exact .inl ⟨_, file, outcome, rfl⟩
    | misnamed task kind outcome name =>
      cases task
      exact .inr ⟨_, kind, outcome, name, rfl⟩
  · rintro (⟨f, file, rfl, rfl⟩ | ⟨k, kind, rfl, name, rfl⟩)
    · exact .unmade rfl file rfl
    · exact .misnamed rfl kind rfl name

section Escapes

variable {host : Host (StateM σ)} {folder : FilePath} {config : GeneratorConfig}
  {outcome : Except WireError FilePath} (hfail : host.FailsAsSystem)

include hfail

theorem Attempt.escape?_endpoints_iff {t : PartitionTable} {service : String}
    (h : (EndpointModule.source config t service).Outcome host folder outcome) (e : WireError) :
    escape? ⟨.endpoints service, outcome⟩ = some e ↔
      Escapes config ⟨.endpoints service, outcome⟩ e := by
  have hkey : (Task.endpoints service).misnamed? = none := Task.misnamed?_of_str rfl
  rw [escapes_endpoints_iff, escape?, hkey]
  cases h with
  | written h => simp
  | @refused k h =>
    constructor
    · intro he
      cases he
      exact ⟨k, hfail k h, rfl, rfl⟩
    · rintro ⟨k', -, ho, rfl⟩
      cases ho
      rfl
  | unmade h =>
    obtain ⟨d, rfl⟩ := EndpointModule.exists_defect_of_source h
    simp [Task.keeps, CodeGenerator.staysWithEndpoints, Fault.toError]

theorem Attempt.escape?_requests_iff {model : ServiceModel}
    (h : (RequestModule.source config model).Outcome host folder outcome) (e : WireError) :
    escape? ⟨.requests model, outcome⟩ = some e ↔
      Escapes config ⟨.requests model, outcome⟩ e := by
  rw [escapes_requests_iff, escape?]
  cases h with
  | written h =>
    obtain ⟨s, hs, -⟩ := RequestModule.exists_name_of_file h
    have hkey : (Task.requests model).misnamed? = none := Task.misnamed?_of_str hs
    simp [hkey]
  | @refused k h =>
    -- The error is one of the file system, so it is not that of a model without a module.
    have hmade {f : Fault} (hf : (RequestModule.source config model).file = .error f) :
        (.error (.failure (.plain k)) : Except WireError FilePath) ≠ .error f.toError := by
      obtain ⟨k', hk', rfl⟩ := RequestModule.exists_failure_of_source hf
      intro ho
      cases ho
      rw [hfail k h] at hk'
      cases hk'
    have hkeeps : (Task.requests model).keeps (.failure (.plain k)) = true := hfail k h
    have hmisnamed : (Task.requests model).misnamed? =
        if model.serviceName.isKey then none else some (.failure (.plain .type)) := rfl
    dsimp only
    rw [if_pos hkeeps, hmisnamed]
    constructor
    · intro he
      split at he
      · cases he
      · rename_i hkey
        cases he
        exact .inr ⟨k, hfail k h, rfl, by simpa using hkey, rfl⟩
    · rintro (⟨f, hf, ho, -⟩ | ⟨k', -, -, hkey, rfl⟩)
      · exact absurd ho (hmade hf)
      · rw [hkey]
        rfl
  | unmade h =>
    obtain ⟨k, hk, rfl⟩ := RequestModule.exists_failure_of_source h
    have hkeeps : ¬(Task.requests model).keeps (.failure (.plain k)) = true := by
      rw [Bool.not_eq_true]
      exact hk
    have herror : Fault.toError (.failure (.plain k)) = .failure (.plain k) := rfl
    rw [herror]
    dsimp only
    rw [if_neg hkeeps]
    constructor
    · intro he
      cases he
      exact .inl ⟨_, h, rfl, rfl⟩
    · rintro (⟨f, -, ho, rfl⟩ | ⟨k', hk', ho, -, -⟩)
      · exact congrArg some (Except.error.inj ho)
      · cases ho
        rw [hk] at hk'
        cases hk'

end Escapes

/-- A generator for a table, with the sources that are built in. -/
structure CodeGenerator.Standard (g : CodeGenerator) (t : PartitionTable) : Prop where
  table : g.table? = some t
  endpoints : g.endpointSource = EndpointModule.source
  requests : g.requestSource = RequestModule.source

section Errors

variable {host : Host (StateM σ)} {g : CodeGenerator} {folder : FilePath} {t : PartitionTable}
  (hg : g.Standard t) {tasks : List Task} {s : σ} {a : Attempt}

include hg

theorem source_endpoints {task : Task} {service : String} (h : task = .endpoints service) :
    task.source g t = EndpointModule.source g.config t service := by
  rw [h, Task.source, hg.endpoints]

theorem source_requests {task : Task} {model : ServiceModel} (h : task = .requests model) :
    task.source g t = RequestModule.source g.config model := by
  rw [h, Task.source, hg.requests]

/-- A task ends as the writing of its module does, and may then tell of it. -/
theorem write_ends (task : Task) {P : Except WireError FilePath → σ → Prop}
    (h : (writeModule host g.config folder (task.source g t)).Ends s P)
    (hlog : ∀ path s' entry, P (.ok path) s' → P (.ok path) ((host.log entry).run s').2) :
    (task.write host g folder).Ends s P := by
  cases task with
  | requests model => exact h
  | endpoints service =>
    change (g.writeEndpoints host service folder).Ends s _
    unfold CodeGenerator.writeEndpoints
    rw [hg.table]
    refine .bind (Action.ends_pure ?_)
    refine .bind (h.mono fun r s₁ h₁ => ?_)
    cases r with
    | error e => exact h₁
    | ok path => exact .bind (Action.ends_liftM (hlog path s₁ _ h₁))

/-- What came of an attempt is what can come of writing its module. -/
theorem outcome_of_mem_attempts (h : a ∈ (attempts host g folder tasks s).1) :
    (a.task.source g t).Outcome host folder a.outcome := by
  obtain ⟨s', hs⟩ := exists_of_mem_attempts host g folder h
  have hends : (a.task.write host g folder).Ends s'
      fun r _ => (a.task.source g t).Outcome host folder r :=
    write_ends hg a.task (writeModule_ends host folder s' g.config _) fun _ _ _ h => h
  rw [(congrArg Attempt.outcome hs).trans (outcome_attempt host g folder _ _)]
  exact hends

/-- A request module that is written belongs to a service whose name is a text. -/
theorem named_of_outcome (h : (a.task.source g t).Outcome host folder a.outcome) : a.Named := by
  intro hs
  cases htask : a.task with
  | endpoints service => exact ⟨service, rfl⟩
  | requests model =>
    rw [source_requests hg htask] at h
    obtain ⟨name, text, hfile⟩ := h.exists_file hs
    obtain ⟨s, hname, -⟩ := RequestModule.exists_name_of_file hfile
    exact ⟨s, hname⟩

theorem named_of_mem_attempts : ∀ a ∈ (attempts host g folder tasks s).1, a.Named :=
  fun _ ha => named_of_outcome hg (outcome_of_mem_attempts hg ha)

/-- The errors that end the generation of all modules are those of the three kinds. -/
theorem escape?_eq_some_iff (hfail : host.FailsAsSystem)
    (h : (a.task.source g t).Outcome host folder a.outcome) (e : WireError) :
    a.escape? = some e ↔ a.Escapes g.config e := by
  obtain ⟨task, outcome⟩ := a
  cases task with
  | endpoints service =>
    rw [source_endpoints hg rfl] at h
    exact Attempt.escape?_endpoints_iff hfail h e
  | requests model =>
    rw [source_requests hg rfl] at h
    exact Attempt.escape?_requests_iff hfail h e

theorem escape?_eq_none_iff (hfail : host.FailsAsSystem)
    (h : (a.task.source g t).Outcome host folder a.outcome) :
    a.escape? = none ↔ ∀ e, ¬a.Escapes g.config e := by
  simp only [Option.eq_none_iff_forall_ne_some, ne_eq, escape?_eq_some_iff hg hfail h]

/-- Whether an endpoint module is written is up to the table, unless the file system fails. -/
theorem succeeded_eq {service : String} (htask : a.task = .endpoints service)
    (h : (a.task.source g t).Outcome host folder a.outcome) (hstays : a.escape? = none) :
    a.succeeded = (EndpointModule.source g.config t service).file.isOk := by
  rw [source_endpoints hg htask] at h
  obtain ⟨task, outcome⟩ := a
  dsimp only at h htask
  subst htask
  cases h with
  | written h => rw [h]; rfl
  | refused h => cases hstays
  | unmade h => rw [h]; rfl

end Errors

/-! ### All modules -/

namespace CodeGenerator

/-- The services whose endpoint modules are asked for: the given ones, or all of the table. -/
def requested (t : PartitionTable) (services : List String) : List String :=
  if services.isEmpty then t.serviceNames else services

/-- The modules to generate, in order. -/
def tasks (t : PartitionTable) (services : List String) : List Task :=
  (requested t services).map .endpoints ++ g.models.map .requests

theorem mem_tasks_of_requested {t : PartitionTable} {services : List String} {service : String}
    (h : service ∈ requested t services) : .endpoints service ∈ g.tasks t services :=
  List.mem_append_left _ (List.mem_map_of_mem h)

theorem mem_tasks_of_model {g : CodeGenerator} (t : PartitionTable) (services : List String)
    {model : ServiceModel} (h : model ∈ g.models) : .requests model ∈ g.tasks t services :=
  List.mem_append_right _ (List.mem_map_of_mem h)

/-- What is told in the end. -/
def summary (results : Results) : LogEntry :=
  ⟨.info, .system, component,
    s!"Generated {(results.filter Prod.snd).length} of {results.length} services in {folder.text}"⟩

variable {g} {t : PartitionTable}

theorem generateAll_eq (hg : g.Standard t) (services : List String) :
    g.generateAll host folder services = (do
      g.prepare host folder
      let results ← (g.tasks t services).foldlM (Task.add host g folder) []
      host.log (summary folder results)
      return results) := by
  unfold generateAll tasks servicesOf
  rw [hg.table]
  simp only [List.foldlM_append, List.foldlM_map, bind_assoc]
  rfl

/-- Where all errors stay with their tasks, an endpoint module is written only if none for the same
service was refused before. -/
theorem pairwise_agrees (hg : g.Standard t) {services : List String} {s : σ}
    (hstays : ∀ a ∈ (attempts host g folder (g.tasks t services) s).1, a.escape? = none) :
    (attempts host g folder (g.tasks t services) s).1.Pairwise Attempt.Agrees := by
  unfold tasks at hstays ⊢
  have hrequests {b a : Attempt} {s : σ}
      (ha : a ∈ (attempts host g folder (g.models.map .requests) s).1) : b.Agrees a := by
    intro service htask
    have htasks := task_mem_of_mem_attempts host g folder ha
    rw [htask] at htasks
    simp at htasks
  rw [attempts_append] at hstays ⊢
  refine List.pairwise_append.mpr ⟨?_, ?_, fun b _ a ha => hrequests ha⟩
  · refine List.pairwise_of_forall_mem_list fun b hb a ha service htask hname hs => ?_
    have hb' : b.task = .endpoints service := by
      obtain ⟨other, -, hother⟩ := List.mem_map.mp
        (task_mem_of_mem_attempts host g folder hb)
      rw [← hother] at hname ⊢
      exact congrArg Task.endpoints (Value.str.inj hname)
    rw [succeeded_eq hg htask (outcome_of_mem_attempts hg ha)
      (hstays a (List.mem_append_left _ ha))] at hs
    rwa [succeeded_eq hg hb' (outcome_of_mem_attempts hg hb)
      (hstays b (List.mem_append_left _ hb))]
  · exact List.pairwise_of_forall_mem_list fun b _ a ha => hrequests ha

/-- Where the results are returned, the folder was prepared. -/
theorem exists_prepare (hg : g.Standard t) {services : List String} {s s' : σ} {results : Results}
    (h : (g.generateAll host folder services).run.run s = (.ok results, s')) :
    ∃ s₀, (g.prepare host folder).run.run s = (.ok (), s₀) := by
  rw [generateAll_eq host folder hg] at h
  cases hprepare : (g.prepare host folder).run.run s with
  | mk r s₀ =>
    cases r with
    | ok _ => exact ⟨s₀, rfl⟩
    | error e =>
      rw [Action.run_bind_of_error hprepare] at h
      cases h

section Run

variable (hg : g.Standard t) {services : List String} {s s₀ : σ}
  (hprepare : (g.prepare host folder).run.run s = (.ok (), s₀))

include hg hprepare

theorem run_generateAll_of_stays
    (hstays : ∀ a ∈ (attempts host g folder (g.tasks t services) s₀).1, a.escape? = none) :
    let results := (attempts host g folder (g.tasks t services) s₀).1.foldl Attempt.enter []
    (g.generateAll host folder services).run.run s =
      (.ok results, ((host.log (summary folder results)).run
        (attempts host g folder (g.tasks t services) s₀).2).2) := by
  rw [generateAll_eq host folder hg, Action.run_bind_of_ok hprepare,
    Action.run_bind_of_ok (run_foldlM_add_of_stays host g folder [] hstays)]
  rfl

theorem run_generateAll_of_escapes {before after : List Attempt} {a : Attempt}
    (htried : (attempts host g folder (g.tasks t services) s₀).1 = before ++ a :: after)
    (hbefore : ∀ b ∈ before, b.escape? = none) {e : WireError} (ha : a.escape? = some e) :
    ((g.generateAll host folder services).run.run s).1 = .error e := by
  have hrun := run_foldlM_add_of_escapes host g folder [] htried hbefore ha
  rw [generateAll_eq host folder hg, Action.run_bind_of_ok hprepare,
    Action.run_bind_of_error (Prod.ext hrun rfl)]

/-- Where the results are returned, all errors stayed with their tasks. -/
theorem stays_of_run_generateAll {results : Results} {s' : σ}
    (h : (g.generateAll host folder services).run.run s = (.ok results, s')) :
    ∀ a ∈ (attempts host g folder (g.tasks t services) s₀).1, a.escape? = none := by
  cases hfind : (attempts host g folder (g.tasks t services) s₀).1.find? fun a =>
      a.escape?.isSome with
  | none => simpa using hfind
  | some a =>
    obtain ⟨ha, before, after, htried, hbefore⟩ := List.find?_eq_some_iff_append.mp hfind
    obtain ⟨e, he⟩ := Option.isSome_iff_exists.mp ha
    have hrun := run_generateAll_of_escapes host folder hg hprepare htried
      (by simpa using hbefore) he
    rw [h] at hrun
    cases hrun

end Run

/-- All modules are attempted, in order, whatever fails. As long as no error is of the three kinds
that do not stay with their module, all attempts are made, each asked-for service and each model has
an entry in the results, each entry is for a name that was attempted, and it says whether all
attempts under that name succeeded. The first error of those kinds ends the generation. -/
theorem generateAll_isolates (hg : g.Standard t) (hfail : host.FailsAsSystem)
    (hclean : g.config.clean = false) (services : List String) (s : σ) :
    let tried := attempts host g folder (g.tasks t services) s
    tried.1.map Attempt.task =
      (requested t services).map .endpoints ++ g.models.map .requests ∧
    ((∀ a ∈ tried.1, ∀ e, ¬a.Escapes g.config e) →
      ∃ results, (g.generateAll host folder services).run.run s =
          (.ok results, ((host.log (summary folder results)).run tried.2).2) ∧
        (∀ service ∈ requested t services, (results.lookup (.str service)).isSome) ∧
        (∀ model ∈ g.models, ∃ p ∈ results, Names p.1 model.serviceName) ∧
        ∀ p ∈ results, (∃ a ∈ tried.1, a.task.name = p.1) ∧
          (p.2 = true ↔ ∀ a ∈ tried.1, Names p.1 a.task.name → a.succeeded = true)) ∧
    ∀ before a after e, tried.1 = before ++ a :: after →
      (∀ b ∈ before, ∀ e, ¬b.Escapes g.config e) → a.Escapes g.config e →
      ((g.generateAll host folder services).run.run s).1 = .error e := by
  have hprepare : (g.prepare host folder).run.run s = (.ok (), s) := by
    unfold prepare
    rw [hclean]
    rfl
  have houtcome {a : Attempt} (ha : a ∈ (attempts host g folder (g.tasks t services) s).1) :
      (a.task.source g t).Outcome host folder a.outcome := outcome_of_mem_attempts hg ha
  refine ⟨map_task_attempts host g folder _ s, fun hnone => ?_,
    fun before a after e htried hbefore ha => ?_⟩
  · have hstays : ∀ a ∈ (attempts host g folder (g.tasks t services) s).1, a.escape? = none :=
      fun a ha => (escape?_eq_none_iff hg hfail (houtcome ha)).mpr (hnone a ha)
    have hnamed : ∀ a ∈ (attempts host g folder (g.tasks t services) s).1, a.Named :=
      named_of_mem_attempts hg
    have hagrees := pairwise_agrees host folder hg hstays
    have hentered := entered_foldl hnamed
    refine ⟨_, run_generateAll_of_stays host folder hg hprepare hstays, fun service h => ?_,
      fun model h => ?_, fun p hp => ⟨hentered.exists_attempt p hp, ?_⟩⟩
    · obtain ⟨a, ha, htask⟩ := exists_mem_attempts host g folder (mem_tasks_of_requested g h) s
      rw [lookup_foldl_enter hnamed hagrees, told_isSome_iff]
      exact ⟨a, ha, by rw [htask]; rfl⟩
    · obtain ⟨a, ha, htask⟩ := exists_mem_attempts host g folder (mem_tasks_of_model t services h) s
      obtain ⟨p, hp, hname⟩ := hentered.exists_entry a ha
      rw [htask] at hname
      exact ⟨p, hp, hname⟩
    · exact snd_eq_true_iff hnamed hagrees hp
  · have hmem {b : Attempt} (hb : b ∈ before ++ a :: after) :
        (b.task.source g t).Outcome host folder b.outcome := houtcome (htried ▸ hb)
    have hfirst : ∀ b ∈ before, b.escape? = none := fun b hb =>
      (escape?_eq_none_iff hg hfail (hmem (List.mem_append_left _ hb))).mpr (hbefore b hb)
    have hlast : a.escape? = some e :=
      (escape?_eq_some_iff hg hfail (hmem (by simp)) e).mpr ha
    exact run_generateAll_of_escapes host folder hg hprepare htried hfirst hlast

/-! ### Cases -/

/-- A table with one service. -/
def storageTable : PartitionTable where
  partitions :=
    [{ name := .str "north"
       dnsSuffix := .str "north.test"
       rule := .absent .null
       regions := []
       services := [("storage", [])] }]

/-- The generator for it. -/
def storage : CodeGenerator := { table? := some storageTable }

theorem standard_storage : storage.Standard storageTable := ⟨rfl, rfl, rfl⟩

/-- The folder for its modules. -/
def outputFolder : FilePath := ⟨false, ["out"]⟩

theorem exists_tried_storage :
    ∃ a b, (attempts (Machine.host Yaml.reader) storage outputFolder
        (storage.tasks storageTable ["nope", "storage"]) {}).1 = [a, b] ∧
      (a.task = .endpoints "nope" ∧ a.succeeded = false ∧ a.escape? = none) ∧
      b.task = .endpoints "storage" ∧ b.succeeded = true ∧ b.escape? = none := by
  have htasks := map_task_attempts (Machine.host Yaml.reader) storage outputFolder
    (storage.tasks storageTable ["nope", "storage"]) {}
  have h : ((attempts (Machine.host Yaml.reader) storage outputFolder
      (storage.tasks storageTable ["nope", "storage"]) {}).1.map
        fun a => (a.succeeded, a.escape?.isNone)) = [(false, true), (true, true)] := by
    decide +kernel
  obtain ⟨a, rest, hrest, ha, h⟩ := List.map_eq_cons_iff.mp h
  obtain ⟨b, others, rfl, hb, h⟩ := List.map_eq_cons_iff.mp h
  obtain rfl := List.map_eq_nil_iff.mp h
  rw [hrest] at htasks
  have htasks : [a.task, b.task] = [.endpoints "nope", .endpoints "storage"] := htasks
  simp only [List.cons.injEq, and_true, Prod.mk.injEq, Option.isNone_iff_eq_none] at htasks ha hb
  exact ⟨a, b, hrest, ⟨htasks.1, ha⟩, htasks.2, hb⟩

/-- A service that is not in the table is refused, and the next one is written all the same. -/
theorem generateAll_isolates_storage :
    ∃ results s', (storage.generateAll (Machine.host Yaml.reader) outputFolder
        ["nope", "storage"]).run.run {} = (.ok results, s') ∧
      (.str "nope", false) ∈ results ∧ (.str "storage", true) ∈ results := by
  obtain ⟨-, hall, -⟩ := generateAll_isolates (Machine.host Yaml.reader) outputFolder
    standard_storage (Machine.failsAsSystem_host Yaml.reader) rfl ["nope", "storage"] {}
  have hnone : ∀ a ∈ (attempts (Machine.host Yaml.reader) storage outputFolder
      (storage.tasks storageTable ["nope", "storage"]) {}).1, a.escape? = none →
        ∀ e, ¬a.Escapes storage.config e := fun a ha =>
    (escape?_eq_none_iff standard_storage (Machine.failsAsSystem_host Yaml.reader)
      (outcome_of_mem_attempts standard_storage ha)).mp
  obtain ⟨a, b, htried, ha, hb⟩ := exists_tried_storage
  rw [htried] at hall hnone
  obtain ⟨results, hrun, hentry, -, htrue⟩ := hall fun c hc => hnone c hc <| by
    rcases List.mem_pair.mp hc with rfl | rfl
    · exact ha.2.2
    · exact hb.2.2
  have hstorage : Names (.str "storage") a.task.name → a.succeeded = true := by
    rw [names_str_iff, ha.1]
    intro h
    simp [Task.name] at h
  have hentered (service : String) (h : service ∈ requested storageTable ["nope", "storage"]) :
      ∃ ok, (.str service, ok) ∈ results := by
    obtain ⟨ok, hok⟩ := Option.isSome_iff_exists.mp (hentry service h)
    exact ⟨ok, Entries.mem_of_lookup_str hok⟩
  obtain ⟨nope, hnope⟩ := hentered "nope" (by simp [requested])
  obtain ⟨ok, hok⟩ := hentered "storage" (by simp [requested])
  refine ⟨results, _, hrun, ?_, ?_⟩
  · cases nope with
    | false => exact hnope
    | true =>
      have hs := (htrue _ hnope).2.mp rfl a (by simp) (names_str_iff.mpr (by rw [ha.1]; rfl))
      rw [ha.2.1] at hs
      cases hs
  · obtain rfl : ok = true := (htrue _ hok).2.mpr fun c hc => by
      rcases List.mem_pair.mp hc with rfl | rfl
      · exact hstorage
      · exact fun _ => hb.2.1
    exact hok

/-- A machine with a file in the place of the output folder. -/
def occupied : Machine := { tree := { files := [(outputFolder, "")] } }

/-- A file in the place of the output folder ends the generation. -/
theorem generateAll_occupied :
    (storage.generateAll (Machine.host Yaml.reader) outputFolder ["storage"]).run.run occupied =
      (.error (.failure (.plain .fileExists)), occupied) := by
  rfl

end CodeGenerator

end Codegen

end ServiceWire
