import ServiceWire.Codegen.Generator
import ServiceWire.Proofs.Endpoint.Suffix
import ServiceWire.Proofs.Host.Files
import ServiceWire.Proofs.Value.Texts

/-!
# Attempts to generate modules

All modules are generated by one walk over tasks: first the endpoint modules of the services, then
the request modules of the models. Each task is attempted on the system that the tasks before it
left, and what came of it is entered under the name of its service. An error that stays with its
task is told and the walk goes on; any other error ends the walk, and so does a name that is no key.
What a name has in the results is whether all attempts under it succeeded, as long as only modules
whose names are texts are written, and no endpoint module after one for the same service was
refused.
-/

namespace ServiceWire

namespace Codegen

variable {σ : Type} (host : Host (StateM σ)) (g : CodeGenerator) (folder : FilePath)

/-! ### Tasks -/

/-- A module of those that are generated together. -/
inductive Task
  /-- The endpoint module of a service. -/
  | endpoints (service : String)
  /-- The request module of a model. -/
  | requests (model : ServiceModel)

namespace Task

/-- The name of the service. -/
def name : Task → Value
  | endpoints service => .str service
  | requests model => model.serviceName

/-- Whether the service has a text for a name. -/
def isCalled (name : String) (task : Task) : Bool := task.name == .str name

theorem isCalled_iff {name : String} {task : Task} :
    task.isCalled name = true ↔ task.name = .str name := Value.beq_str_iff _ _

/-- The error of a name that is no key, if it is none. -/
def misnamed? (task : Task) : Option WireError :=
  if task.name.isKey then none else some (.failure (.plain .type))

theorem misnamed?_of_str {task : Task} {s : String} (h : task.name = .str s) :
    task.misnamed? = none := by
  rw [misnamed?, h]
  simp [Value.isKey]

/-- The module, where there is a table. -/
def source (t : PartitionTable) : Task → ModuleSource
  | endpoints service => g.endpointSource g.config t service
  | requests model => g.requestSource g.config model

/-- Writes the module. -/
def write : Task → Action (StateM σ) FilePath
  | endpoints service => g.writeEndpoints host service folder
  | requests model => g.writeRequests host model folder

/-- Whether an error stays with the module. -/
def keeps : Task → WireError → Bool
  | endpoints _ => CodeGenerator.staysWithEndpoints
  | requests _ => CodeGenerator.staysWithRequests

/-- What is told of an error. -/
def complaint (e : WireError) : Task → String
  | endpoints service => s!"Failed to generate metadata for {service}: {e.text}"
  | requests model => s!"Failed to generate marshallers for {model.serviceName.text}: {e.text}"

/-- The results with the success of the module. -/
def enter (results : CodeGenerator.Results) (ok : Bool) : Task → CodeGenerator.Results
  | endpoints service => Entries.put (.str service) ok results
  | requests model =>
    if ok then Entries.putNew model.serviceName true results
    else Entries.put model.serviceName false results

/-- Writes the module, and says whether that succeeded. -/
def add (results : CodeGenerator.Results) : Task → Action (StateM σ) CodeGenerator.Results
  | endpoints service => g.addEndpoints host folder results service
  | requests model => g.addRequests host folder results model

theorem add_eq (results : CodeGenerator.Results) (task : Task) :
    task.add host g folder results = (do
      let ok ← CodeGenerator.attempt host task.keeps (task.complaint ·)
        (task.write host g folder)
      match task.misnamed? with
      | some e => throw e
      | none => return task.enter results ok) := by
  cases task with
  | endpoints service =>
    have hkey : (endpoints service).misnamed? = none := misnamed?_of_str rfl
    rw [hkey]
    rfl
  | requests model =>
    have hkey : (Action.ofFault (model.serviceName.asKey.mapError .failure) :
        Action (StateM σ) Value) =
          match (requests model).misnamed? with
          | some e => throw e
          | none => return model.serviceName := by
      rw [Value.asKey, misnamed?, name]
      split
      · rfl
      · rfl
    rw [add, CodeGenerator.addRequests, hkey]
    cases (requests model).misnamed? with
    | some e => rfl
    | none => rfl

end Task

/-! ### Attempts -/

/-- What came of a task. -/
structure Attempt where
  task : Task
  outcome : Except WireError FilePath

namespace Attempt

/-- Whether the module was written. -/
def succeeded (a : Attempt) : Bool := a.outcome.isOk

/-- The error that ends the generation of all modules, if there is one: it does not stay with the
module, or the name of the service is no key. -/
def escape? (a : Attempt) : Option WireError :=
  match a.outcome with
  | .ok _ => a.task.misnamed?
  | .error e => if a.task.keeps e then a.task.misnamed? else some e

/-- The results with what came of the task. -/
def enter (results : CodeGenerator.Results) (a : Attempt) : CodeGenerator.Results :=
  a.task.enter results a.succeeded

end Attempt

/-- A task on a system: what comes of it, and the system that it leaves. Of an error that stays with
the task there is a log entry. -/
def Task.attempt (task : Task) (s : σ) : Attempt × σ :=
  match (task.write host g folder).run.run s with
  | (.ok path, s') => (⟨task, .ok path⟩, s')
  | (.error e, s') =>
    (⟨task, .error e⟩,
      if task.keeps e then
        ((host.log ⟨.error, .system, component, task.complaint e⟩).run s').2
      else s')

/-- All tasks, each on the system that the one before it leaves. -/
def attempts : List Task → σ → List Attempt × σ
  | [], s => ([], s)
  | task :: rest, s =>
    let (a, s') := task.attempt host g folder s
    let (others, s'') := attempts rest s'
    (a :: others, s'')

theorem task_attempt (task : Task) (s : σ) : (task.attempt host g folder s).1.task = task := by
  unfold Task.attempt
  split <;> rfl

theorem outcome_attempt (task : Task) (s : σ) :
    (task.attempt host g folder s).1.outcome = ((task.write host g folder).run.run s).1 := by
  unfold Task.attempt
  cases (task.write host g folder).run.run s with
  | mk r s' =>
    cases r with
    | ok path => rfl
    | error e => rfl

/-- Whatever fails, all tasks are attempted, in order. -/
theorem map_task_attempts (tasks : List Task) (s : σ) :
    (attempts host g folder tasks s).1.map Attempt.task = tasks := by
  induction tasks generalizing s with
  | nil => rfl
  | cons task rest ih => simp [attempts, task_attempt, ih]

theorem task_mem_of_mem_attempts {tasks : List Task} {s : σ} {a : Attempt}
    (h : a ∈ (attempts host g folder tasks s).1) : a.task ∈ tasks := by
  rw [← map_task_attempts host g folder tasks s]
  exact List.mem_map_of_mem h

theorem exists_mem_attempts {tasks : List Task} {task : Task} (h : task ∈ tasks) (s : σ) :
    ∃ a ∈ (attempts host g folder tasks s).1, a.task = task := by
  rw [← map_task_attempts host g folder tasks s] at h
  exact List.mem_map.mp h

theorem attempts_append (tasks others : List Task) (s : σ) :
    (attempts host g folder (tasks ++ others) s).1 =
      (attempts host g folder tasks s).1 ++
        (attempts host g folder others (attempts host g folder tasks s).2).1 := by
  induction tasks generalizing s with
  | nil => rfl
  | cons task rest ih => simp [attempts, ih]

/-- Each attempt was made on some system. -/
theorem exists_of_mem_attempts {tasks : List Task} {s : σ} {a : Attempt}
    (h : a ∈ (attempts host g folder tasks s).1) :
    ∃ s', a = (a.task.attempt host g folder s').1 := by
  induction tasks generalizing s with
  | nil => cases h
  | cons task rest ih =>
    have h : a = (task.attempt host g folder s).1 ∨
        a ∈ (attempts host g folder rest (task.attempt host g folder s).2).1 := List.mem_cons.mp h
    rcases h with h | h
    · refine ⟨s, ?_⟩
      rw [h, task_attempt]
    · exact ih h

/-! ### The walk -/

section Walk

variable (results : CodeGenerator.Results) {tasks : List Task} {task : Task} {s : σ}

theorem run_attempt (stays : WireError → Bool) (report : WireError → String)
    (x : Action (StateM σ) FilePath) (s : σ) :
    (CodeGenerator.attempt host stays report x).run.run s =
      match x.run.run s with
      | (.ok _, s') => (.ok true, s')
      | (.error e, s') =>
        if stays e then (.ok false, ((host.log ⟨.error, .system, component, report e⟩).run s').2)
        else (.error e, s') := by
  unfold CodeGenerator.attempt
  rw [ExceptT.run_mk, StateT.run_bind]
  cases hr : x.run.run s with
  | mk r s' =>
    cases r with
    | ok path => rfl
    | error e =>
      let entry : LogEntry := ⟨.error, .system, component, report e⟩
      change StateT.run (if stays e = true then do host.log entry; return Except.ok false
        else return Except.error e) s' = if stays e = true then _ else _
      split <;> rfl

/-- A task is entered in the results, unless an error ends the walk. -/
theorem run_add (task : Task) (s : σ) :
    (task.add host g folder results).run.run s =
      (match (task.attempt host g folder s).1.escape? with
        | some e => .error e
        | none => .ok ((task.attempt host g folder s).1.enter results),
        (task.attempt host g folder s).2) := by
  have hattempt := run_attempt host task.keeps (task.complaint ·) (task.write host g folder) s
  have hentered (ok : Bool) (s' : σ) :
      (match task.misnamed? with
        | some e => throw e
        | none => return task.enter results ok :
          Action (StateM σ) CodeGenerator.Results).run.run s' =
      (match task.misnamed? with
        | some e => .error e
        | none => .ok (task.enter results ok), s') := by
    cases task.misnamed? with
    | some e => rfl
    | none => rfl
  rw [Task.add_eq]
  unfold Task.attempt
  cases hr : (task.write host g folder).run.run s with
  | mk r s' =>
    rw [hr] at hattempt
    cases r with
    | ok path => exact (Action.run_bind_of_ok hattempt).trans (hentered true s')
    | error e =>
      unfold Attempt.escape?
      dsimp only at hattempt ⊢
      split at hattempt
      · rename_i hkeeps
        rw [if_pos hkeeps, if_pos hkeeps]
        exact (Action.run_bind_of_ok hattempt).trans (hentered false _)
      · rename_i hkeeps
        rw [if_neg hkeeps, if_neg hkeeps]
        exact Action.run_bind_of_error hattempt

theorem run_add_of_stays (h : (task.attempt host g folder s).1.escape? = none) :
    (task.add host g folder results).run.run s =
      (.ok ((task.attempt host g folder s).1.enter results),
        (task.attempt host g folder s).2) := by
  rw [run_add, h]

theorem run_add_of_escapes {e : WireError}
    (h : (task.attempt host g folder s).1.escape? = some e) :
    (task.add host g folder results).run.run s =
      (.error e, (task.attempt host g folder s).2) := by
  rw [run_add, h]

/-- Where no error ends the walk, the results tell of all attempts. -/
theorem run_foldlM_add_of_stays (h : ∀ a ∈ (attempts host g folder tasks s).1, a.escape? = none) :
    (tasks.foldlM (Task.add host g folder) results).run.run s =
      (.ok ((attempts host g folder tasks s).1.foldl Attempt.enter results),
        (attempts host g folder tasks s).2) := by
  induction tasks generalizing s results with
  | nil => rfl
  | cons task rest ih =>
    have hfirst := run_add_of_stays host g folder results (h _ (List.mem_cons_self ..))
    rw [List.foldlM_cons, Action.run_bind_of_ok hfirst]
    exact ih _ fun a ha => h a (List.mem_cons_of_mem _ ha)

/-- The first error that ends the walk is the error of the whole walk. -/
theorem run_foldlM_add_of_escapes {before after : List Attempt} {a : Attempt} {e : WireError}
    (h : (attempts host g folder tasks s).1 = before ++ a :: after)
    (hbefore : ∀ b ∈ before, b.escape? = none) (ha : a.escape? = some e) :
    ((tasks.foldlM (Task.add host g folder) results).run.run s).1 = .error e := by
  induction tasks generalizing s results before with
  | nil => simp [attempts] at h
  | cons task rest ih =>
    rw [List.foldlM_cons]
    cases before with
    | nil =>
      obtain ⟨rfl, -⟩ := List.cons.inj h
      rw [Action.run_bind_of_error (run_add_of_escapes host g folder results ha)]
    | cons b before =>
      obtain ⟨rfl, hrest⟩ := List.cons.inj h
      have hfirst := run_add_of_stays host g folder results (hbefore _ (List.mem_cons_self ..))
      rw [Action.run_bind_of_ok hfirst]
      exact ih _ hrest fun b hb => hbefore b (List.mem_cons_of_mem _ hb)

end Walk

/-! ### What a name has in the results -/

/-- What attempts say of a text: nothing, or whether all attempts under this name succeeded. -/
def told (name : String) (tried : List Attempt) : Option Bool :=
  let own := tried.filter fun a => a.task.isCalled name
  if own.isEmpty then none else some (own.all Attempt.succeeded)

theorem told_concat (name : String) (tried : List Attempt) (a : Attempt) :
    told name (tried ++ [a]) =
      if a.task.isCalled name then some ((told name tried).getD true && a.succeeded)
      else told name tried := by
  unfold told
  cases h : a.task.isCalled name with
  | true =>
    cases hown : tried.filter fun b => b.task.isCalled name with
    | nil => simp [List.filter_append, hown, h]
    | cons b rest => simp [List.filter_append, hown, h, Bool.and_assoc]
  | false => simp [List.filter_append, h]

theorem told_isSome_iff {name : String} {tried : List Attempt} :
    (told name tried).isSome ↔ ∃ a ∈ tried, a.task.name = .str name := by
  simp only [← Task.isCalled_iff]
  unfold told
  cases hown : tried.filter fun a => a.task.isCalled name with
  | nil => simpa [List.filter_eq_nil_iff] using hown
  | cons a rest =>
    have ha : a ∈ tried.filter fun a => a.task.isCalled name := by simp [hown]
    simp only [List.isEmpty_cons, Bool.false_eq_true, if_false, Option.isSome_some, true_iff]
    exact ⟨a, List.mem_filter.mp ha⟩

theorem told_eq_true_iff {name : String} {tried : List Attempt} :
    told name tried = some true ↔
      (∃ a ∈ tried, a.task.name = .str name) ∧
        ∀ a ∈ tried, a.task.name = .str name → a.succeeded = true := by
  have hall : (tried.filter fun a => a.task.isCalled name).all Attempt.succeeded = true ↔
      ∀ a ∈ tried, a.task.name = .str name → a.succeeded = true := by
    simp only [List.all_eq_true, List.mem_filter, Task.isCalled_iff, and_imp]
  rw [← told_isSome_iff, ← hall]
  unfold told
  cases (tried.filter fun a => a.task.isCalled name).isEmpty with
  | true => simp
  | false => simp

/-- An endpoint module is written only if none for the same service was refused before. -/
def Attempt.Agrees (b a : Attempt) : Prop :=
  ∀ service, a.task = .endpoints service → b.task.name = .str service → a.succeeded = true →
    b.succeeded = true

/-- Only a module whose service has a text for a name is written. -/
def Attempt.Named (a : Attempt) : Prop := a.succeeded = true → ∃ s, a.task.name = .str s

theorem Attempt.enter_of_refused (results : CodeGenerator.Results) {a : Attempt}
    (h : a.succeeded = false) : a.enter results = Entries.put a.task.name false results := by
  obtain ⟨task, outcome⟩ := a
  rw [enter, h]
  cases task with
  | endpoints service => rfl
  | requests model => rfl

theorem lookup_enter {results : CodeGenerator.Results} {a : Attempt} (name : String)
    (hnamed : a.Named)
    (h : ∀ service, a.task = .endpoints service → a.succeeded = true →
      results.lookup (.str service) ≠ some false) :
    (a.enter results).lookup (.str name) =
      if a.task.isCalled name then
        some ((results.lookup (.str name)).getD true && a.succeeded)
      else results.lookup (.str name) := by
  cases hs : a.succeeded with
  | false =>
    rw [Attempt.enter_of_refused results hs, Entries.lookup_put_text, Bool.and_false]
    rfl
  | true =>
    obtain ⟨s, hname⟩ := hnamed hs
    have hcalled : a.task.isCalled name = (s == name) := by
      rw [Task.isCalled, hname, Value.str_beq_str]
    rw [hcalled, Attempt.enter, hs, Bool.and_true]
    obtain ⟨task, outcome⟩ := a
    cases task with
    | endpoints service =>
      obtain rfl : service = s := Value.str.inj hname
      rw [Task.enter, Entries.lookup_put_text, Value.str_beq_str]
      by_cases hne : service = name
      · subst hne
        have hnot := h service rfl hs
        cases hl : results.lookup (.str service) with
        | none => simp
        | some b =>
          cases b with
          | true => simp
          | false => exact absurd hl hnot
      · simp [hne]
    | requests model =>
      have hname : model.serviceName = .str s := hname
      rw [Task.enter, if_pos rfl, hname, ← Entries.lookup_texts, Entries.texts_putNew_str,
        Entries.lookup_putNew, Entries.lookup_texts]
      by_cases hne : s = name
      · subst hne
        cases results.lookup (.str s) with
        | none => simp
        | some b => simp
      · simp [hne, Ne.symm hne]

/-- The results say of a text what the attempts say of it. -/
theorem lookup_foldl_enter {tried : List Attempt} (hnamed : ∀ a ∈ tried, a.Named)
    (h : tried.Pairwise Attempt.Agrees) (name : String) :
    (tried.foldl Attempt.enter []).lookup (.str name) = told name tried := by
  induction tried using List.reverseRecOn generalizing name with
  | nil => rfl
  | append_singleton tried a ih =>
    obtain ⟨hbefore, -, hagrees⟩ := List.pairwise_append.mp h
    have ih := ih (fun b hb => hnamed b (List.mem_append_left _ hb)) hbefore
    rw [List.foldl_append, List.foldl_cons, List.foldl_nil, told_concat, ← ih]
    refine lookup_enter name (hnamed a (by simp)) fun service htask hs hfalse => ?_
    rw [ih] at hfalse
    have hall : ∀ b ∈ tried, b.task.name = .str service → b.succeeded = true :=
      fun b hb hname => hagrees b hb a (List.mem_singleton.mpr rfl) service htask hname hs
    have hsome : ∃ b ∈ tried, b.task.name = .str service :=
      told_isSome_iff.mp (by rw [hfalse]; rfl)
    rw [told_eq_true_iff.mpr ⟨hsome, hall⟩] at hfalse
    cases hfalse

/-! ### What the results have of the attempts -/

/-- Whether what is entered under a name is found under another: the two are one value, or count as
the same key. -/
def Names (v w : Value) : Prop := v = w ∨ (v == w) = true

theorem names_str_iff {s : String} {v : Value} : Names (.str s) v ↔ v = .str s := by
  rw [Names, Value.str_beq_iff, eq_comm, or_self]

/-- What is true of the results of some attempts, whatever their names: the entries under texts have
different keys, no other entry is for a success, and each entry is for an attempt and each attempt
has one. -/
structure Entered (tried : List Attempt) (results : CodeGenerator.Results) : Prop where
  distinct : ((Entries.texts results).map Prod.fst).Nodup
  isText : ∀ p ∈ results, p.2 = true → ∃ s, p.1 = .str s
  exists_attempt : ∀ p ∈ results, ∃ a ∈ tried, a.task.name = p.1
  exists_entry : ∀ a ∈ tried, ∃ p ∈ results, Names p.1 a.task.name

theorem entered_nil : Entered [] [] where
  distinct := List.nodup_nil
  isText := nofun
  exists_attempt := nofun
  exists_entry := nofun

section Entered

variable {tried : List Attempt} {results : CodeGenerator.Results} {a : Attempt}

/-- What is found to have succeeded has a text for a name. -/
theorem Entered.isText_of_lookup (h : Entered tried results) {v : Value}
    (hv : results.lookup v = some true) : ∃ s, v = .str s := by
  obtain ⟨p, hp, hkey, htrue⟩ := Entries.exists_of_lookup hv
  obtain ⟨s, hs⟩ := h.isText p hp htrue
  rw [hs, Value.beq_str_iff] at hkey
  exact ⟨s, hkey⟩

theorem Entered.put (h : Entered tried results) (hnamed : a.Named) :
    Entered (tried ++ [a]) (Entries.put a.task.name a.succeeded results) := by
  constructor
  case distinct =>
    by_cases htext : ∃ s, a.task.name = .str s
    · obtain ⟨s, hs⟩ := htext
      rw [hs, Entries.texts_put_str]
      exact Entries.nodup_put h.distinct s _
    · rw [Entries.texts_put_of_ne fun s hs => htext ⟨s, hs⟩]
      exact h.distinct
  case isText =>
    intro p hp htrue
    rcases Entries.mem_put hp with hp | ⟨hv, hk⟩
    · exact h.isText p hp htrue
    · obtain ⟨s, hs⟩ := hnamed (hv ▸ htrue)
      rw [hs, Value.beq_str_iff] at hk
      exact ⟨s, hk.elim id And.left⟩
  case exists_attempt =>
    have hlater {k : Value} (hk : k ∈ results.map Prod.fst) :
        ∃ b ∈ tried ++ [a], b.task.name = k := by
      obtain ⟨p, hp, rfl⟩ := List.mem_map.mp hk
      obtain ⟨b, hb, hname⟩ := h.exists_attempt p hp
      exact ⟨b, List.mem_append_left _ hb, hname⟩
    intro p hp
    rcases Entries.mem_put hp with hp | ⟨-, hk | ⟨-, hk⟩⟩
    · exact hlater (List.mem_map_of_mem hp)
    · exact ⟨a, by simp, hk.symm⟩
    · exact hlater hk
  case exists_entry =>
    intro b hb
    rcases List.mem_append.mp hb with hb | hb
    · obtain ⟨p, hp, hname⟩ := h.exists_entry b hb
      obtain ⟨q, hq, hkey⟩ := List.mem_map.mp
        (Entries.mem_keys_put_of_mem (List.mem_map_of_mem hp) a.task.name a.succeeded)
      exact ⟨q, hq, hkey ▸ hname⟩
    · obtain rfl := List.mem_singleton.mp hb
      exact Entries.exists_mem_put _ _ _

/-- Nothing needs to be entered for an attempt under a text that has an entry. -/
theorem Entered.concat (h : Entered tried results) {s : String} (hname : a.task.name = .str s)
    (hentry : (results.lookup (.str s)).isSome) : Entered (tried ++ [a]) results where
  distinct := h.distinct
  isText := h.isText
  exists_attempt p hp := by
    obtain ⟨b, hb, hkey⟩ := h.exists_attempt p hp
    exact ⟨b, List.mem_append_left _ hb, hkey⟩
  exists_entry b hb := by
    rcases List.mem_append.mp hb with hb | hb
    · exact h.exists_entry b hb
    · obtain rfl := List.mem_singleton.mp hb
      obtain ⟨ok, hok⟩ := Option.isSome_iff_exists.mp hentry
      exact ⟨_, Entries.mem_of_lookup_str hok, names_str_iff.mpr hname⟩

theorem Entered.enter (h : Entered tried results) (hnamed : a.Named) :
    Entered (tried ++ [a]) (a.enter results) := by
  have hput := h.put hnamed
  cases hs : a.succeeded with
  | false =>
    rw [Attempt.enter_of_refused results hs, ← hs]
    exact hput
  | true =>
    obtain ⟨s, hname⟩ := hnamed hs
    rw [hname, hs] at hput
    obtain ⟨task, outcome⟩ := a
    rw [Attempt.enter, hs]
    cases task with
    | endpoints service =>
      obtain rfl : service = s := Value.str.inj hname
      exact hput
    | requests model =>
      have hservice : model.serviceName = .str s := hname
      rw [Task.enter, if_pos rfl, hservice]
      cases hl : results.lookup (.str s) with
      | none =>
        rw [Entries.putNew_str_of_lookup hl]
        exact hput
      | some ok =>
        rw [Entries.putNew, hl]
        exact h.concat hname (by rw [hl]; rfl)

theorem entered_foldl (hnamed : ∀ a ∈ tried, a.Named) :
    Entered tried (tried.foldl Attempt.enter []) := by
  induction tried using List.reverseRecOn with
  | nil => exact entered_nil
  | append_singleton tried a ih =>
    rw [List.foldl_append, List.foldl_cons, List.foldl_nil]
    exact (ih fun b hb => hnamed b (List.mem_append_left _ hb)).enter (hnamed a (by simp))

/-- An entry is for a success exactly if all attempts under its name succeeded. -/
theorem snd_eq_true_iff (hnamed : ∀ a ∈ tried, a.Named) (h : tried.Pairwise Attempt.Agrees)
    {p : Value × Bool} (hp : p ∈ tried.foldl Attempt.enter []) :
    p.2 = true ↔ ∀ a ∈ tried, Names p.1 a.task.name → a.succeeded = true := by
  have hentered := entered_foldl hnamed
  obtain ⟨k, ok⟩ := p
  have htold {s : String} (hk : k = .str s) : told s tried = some ok := by
    subst hk
    rw [← lookup_foldl_enter hnamed h, ← Entries.lookup_texts]
    exact Entries.lookup_of_mem hentered.distinct (Entries.mem_texts_iff.mpr hp)
  constructor
  · rintro rfl a ha hname
    obtain ⟨s, rfl⟩ := hentered.isText _ hp rfl
    exact (told_eq_true_iff.mp (htold rfl)).2 a ha (names_str_iff.mp hname)
  -- An entry under anything but a text is for an attempt that failed.
  · intro hall
    obtain ⟨a, ha, hname⟩ := hentered.exists_attempt _ hp
    obtain ⟨s, hs⟩ := hnamed a ha (hall a ha (.inl hname.symm))
    obtain rfl : .str s = k := hs.symm.trans hname
    have htrue : told s tried = some true := told_eq_true_iff.mpr
      ⟨⟨a, ha, hs⟩, fun b hb hb' => hall b hb (names_str_iff.mpr hb')⟩
    exact Option.some.inj ((htold rfl).symm.trans htrue)

end Entered

end Codegen

end ServiceWire
