import ServiceWire.Proofs.Codegen.Isolation
import ServiceWire.Proofs.Text.Ascii

/-!
# What is in the files of modules

Every attempt leaves the files as they are, but for the mark of the package and the file of its own
module. So after any number of attempts a file holds what the last attempt with its path has
written, and only where two modules have one path is the earlier one lost. An endpoint module and a
request module never have one path, since their names end differently; two services do whose names
differ in nothing but points, dashes, underscores and the case of letters.
-/

namespace ServiceWire

/-! ### Files and folders -/

namespace FileTree

variable {t t' : FileTree} {p : FilePath}

theorem files_of_makeFolders (h : t.makeFolders p = .ok t') : t'.files = t.files := by
  unfold makeFolders at h
  split at h
  · cases h
  · split at h
    · cases h
    · cases h
      rfl

theorem files_of_write {text : String} (h : t.write p text = .ok t') :
    t'.files = Entries.put p text t.files := by
  unfold write at h
  split at h
  · cases h
  · split at h
    · cases h
    · split at h
      · cases h
        rfl
      · cases h

end FileTree

namespace Codegen

open Machine (host)

variable {yaml : YamlReader} {g : CodeGenerator} {folder : FilePath} {t : PartitionTable}

/-- The file that makes the output folder a package. -/
def packageMark (folder : FilePath) : FilePath := folder.join ⟨false, ["__init__.py"]⟩

theorem writeFile_files (path : FilePath) (text : String) (s : Machine) :
    (writeFile (host yaml) path text).Ends s fun r s' =>
      s'.tree.files = if r.isOk then Entries.put path text s.tree.files else s.tree.files := by
  refine .bind (Action.ends_ofHost (fun _ s₁ h₁ => ?_) fun k s₁ h₁ => ?_)
  · obtain ⟨t₁, hmade, rfl⟩ := Machine.exists_of_change (f := fun t => t.makeFolders path.parent) h₁
    refine .bind (Action.ends_ofHost (fun _ s₂ h₂ => ?_) fun k s₂ h₂ => ?_)
    · obtain ⟨t₂, hwritten, rfl⟩ := Machine.exists_of_change (f := fun t => t.write path text) h₂
      refine .bind (Action.ends_liftM ?_)
      have hfiles : t₂.files = Entries.put path text t₁.files := FileTree.files_of_write hwritten
      rw [FileTree.files_of_makeFolders hmade] at hfiles
      exact hfiles
    · obtain ⟨-, rfl⟩ := Machine.error_of_change (f := fun t => t.write path text) h₂
      exact FileTree.files_of_makeFolders hmade
  · obtain ⟨-, rfl⟩ := Machine.error_of_change (f := fun t => t.makeFolders path.parent) h₁
    rfl

/-- Making a folder a package writes no file but the mark. -/
theorem makePackage_files (config : GeneratorConfig) {p : FilePath} (hp : p ≠ packageMark folder)
    (s : Machine) :
    (makePackage (host yaml) config folder).Ends s fun _ s' =>
      s'.tree.files.lookup p = s.tree.files.lookup p := by
  refine .bind (Action.ends_ofHost (fun _ s₁ h₁ => ?_) fun k s₁ h₁ => ?_)
  · obtain ⟨t₁, hmade, rfl⟩ := Machine.exists_of_change (f := fun t => t.makeFolders folder) h₁
    have hkept : t₁.files.lookup p = s.tree.files.lookup p := by
      rw [FileTree.files_of_makeFolders hmade]
    refine .bind (Action.ends_liftM ?_)
    dsimp only
    split
    · exact hkept
    · refine .bind ((writeFile_files _ _ _).mono fun r s₂ h₂ => ?_)
      have hlookup : s₂.tree.files.lookup p = s.tree.files.lookup p := by
        rw [h₂, ← hkept]
        split
        · rw [← packageMark, Entries.lookup_put, if_neg (by simpa using hp)]
          rfl
        · rfl
      cases r with
      | ok _ => exact hlookup
      | error e => exact hlookup
  · obtain ⟨-, rfl⟩ := Machine.error_of_change (f := fun t => t.makeFolders folder) h₁
    rfl

/-- The text that a module has at a path. -/
def ModuleSource.textAt (m : ModuleSource) (folder p : FilePath) : Option String :=
  match m.file with
  | .ok (name, text) => if p = folder.join (.ofText name) then some text else none
  | .error _ => none

theorem writeModule_files (config : GeneratorConfig) (m : ModuleSource) {p : FilePath}
    (hp : p ≠ packageMark folder) (s : Machine) :
    (writeModule (host yaml) config folder m).Ends s fun r s' =>
      s'.tree.files.lookup p =
        (if r.isOk then m.textAt folder p else none).or (s.tree.files.lookup p) := by
  have hwrite (s₁ : Machine) : (Action.ofFault m.file >>= fun file =>
      writeFile (host yaml) (folder.join (.ofText file.1)) file.2).Ends s₁
        fun r s' => s'.tree.files.lookup p =
          (if r.isOk then m.textAt folder p else none).or (s₁.tree.files.lookup p) := by
    refine .bind (Action.ends_ofFault ?_)
    unfold ModuleSource.textAt
    cases m.file with
    | error f => rfl
    | ok file =>
      refine (writeFile_files _ _ s₁).mono fun r s₂ h₂ => ?_
      rw [h₂]
      cases r with
      | error e => rfl
      | ok path =>
        by_cases h : p = folder.join (.ofText file.1)
        · simp [Except.isOk, Except.toBool, Entries.lookup_put, h]
        · simp [Except.isOk, Except.toBool, Entries.lookup_put, h]
  unfold writeModule
  split
  · refine .bind ((makePackage_files config hp s).mono fun r s₁ h₁ => ?_)
    rw [← h₁]
    cases r with
    | ok _ => exact hwrite s₁
    | error e => rfl
  · exact hwrite s

/-! ### Files after attempts -/

/-- The text that an attempt leaves at a path. -/
def Attempt.textAt (g : CodeGenerator) (t : PartitionTable) (folder p : FilePath) (a : Attempt) :
    Option String :=
  if a.succeeded then (a.task.source g t).textAt folder p else none

theorem attempt_files (hg : g.Standard t) (task : Task) {p : FilePath}
    (hp : p ≠ packageMark folder) (s : Machine) :
    (task.attempt (host yaml) g folder s).2.tree.files.lookup p =
      ((task.attempt (host yaml) g folder s).1.textAt g t folder p).or (s.tree.files.lookup p) := by
  have hwrite : (task.write (host yaml) g folder).Ends s fun r s' =>
      s'.tree.files.lookup p =
        (if r.isOk then (task.source g t).textAt folder p else none).or
          (s.tree.files.lookup p) :=
    write_ends hg task (writeModule_files g.config _ hp s) fun _ _ _ h => h
  unfold Task.attempt Attempt.textAt Attempt.succeeded
  unfold Action.Ends at hwrite
  cases hr : (task.write (host yaml) g folder).run.run s with
  | mk r s' =>
    rw [hr] at hwrite
    cases r with
    | ok path => exact hwrite
    | error e =>
      dsimp only
      split
      · exact hwrite
      · exact hwrite

/-- After any number of attempts a file holds what the last attempt with its path has written. -/
theorem attempts_files (hg : g.Standard t) (tasks : List Task) {p : FilePath}
    (hp : p ≠ packageMark folder) (s : Machine) :
    (attempts (host yaml) g folder tasks s).2.tree.files.lookup p =
      ((attempts (host yaml) g folder tasks s).1.reverse.findSome? (Attempt.textAt g t folder p)).or
        (s.tree.files.lookup p) := by
  induction tasks generalizing s with
  | nil => rfl
  | cons task rest ih =>
    simp only [attempts]
    rw [ih, attempt_files hg task hp, List.reverse_cons, List.findSome?_append,
      List.findSome?_singleton, Option.or_assoc]

/-! ### Paths of modules -/

/-- The path of the module that holds something of a service. -/
def modulePath (folder : FilePath) (service kind : String) : FilePath :=
  folder.join (.ofText (fileName (moduleName service kind)))

/-- The last piece of a text ends as the text does, if no separator stands in the ending. -/
theorem exists_pieces_append {sep : Char} {ending : List Char} (h : sep ∉ ending)
    (stem : List Char) :
    ∃ before start, Text.pieces sep (stem ++ ending) = before ++ [start ++ ending] := by
  induction stem with
  | nil => exact ⟨[], [], Text.pieces_of_not_mem h⟩
  | cons c rest ih =>
    obtain ⟨before, start, hrest⟩ := ih
    rw [List.cons_append, Text.pieces, hrest]
    split
    · exact ⟨[] :: before, start, rfl⟩
    · cases before with
      | nil => exact ⟨[], c :: start, rfl⟩
      | cons p ps => exact ⟨(c :: p) :: ps, start, rfl⟩

/-- A path ends as the text does that writes it. -/
theorem exists_name_ofText (folder : FilePath) (stem : String) {ending : String}
    (hslash : '/' ∉ ending.toList) (hlong : 1 < ending.toList.length) :
    ∃ start, (folder.join (.ofText (stem ++ ending))).name = start ++ ending := by
  obtain ⟨before, start, hpieces⟩ := exists_pieces_append hslash stem.toList
  have hne (other : String) (hshort : other.toList.length ≤ 1) :
      (String.ofList (start ++ ending.toList) != other) = true := by
    rw [bne_iff_ne]
    rintro rfl
    simp at hshort
    omega
  have hkeep : (String.ofList (start ++ ending.toList) != "" &&
      String.ofList (start ++ ending.toList) != ".") = true := by
    rw [hne "" (by simp), hne "." (by simp)]
    rfl
  have hparts : ∃ parts, (FilePath.ofText (stem ++ ending)).parts =
      parts ++ [String.ofList (start ++ ending.toList)] := by
    unfold FilePath.ofText
    rw [String.toList_append, hpieces, List.map_append, List.filter_append]
    exact ⟨_, by simp only [List.map_cons, List.map_nil, List.filter_cons, hkeep, if_true,
      List.filter_nil]; rfl⟩
  obtain ⟨parts, hparts⟩ := hparts
  refine ⟨String.ofList start, ?_⟩
  have hlast : (folder.join (.ofText (stem ++ ending))).parts.getLast? =
      some (String.ofList (start ++ ending.toList)) := by
    unfold FilePath.join
    split
    · rw [hparts, List.getLast?_concat]
    · simp [hparts]
  unfold FilePath.name
  rw [hlast, Option.getD_some, String.ofList_append, String.ofList_toList]

theorem exists_name_modulePath (folder : FilePath) (service kind : String)
    (hslash : '/' ∉ kind.toList) :
    ∃ start, (modulePath folder service kind).name = start ++ ("_" ++ (kind ++ ".py")) := by
  have hending : '/' ∉ ("_" ++ (kind ++ ".py")).toList := by simp [hslash]
  unfold modulePath fileName moduleName
  rw [String.append_assoc, String.append_assoc]
  exact exists_name_ofText folder _ hending (by simp)

theorem modulePath_ne_packageMark (folder : FilePath) (service : String) :
    modulePath folder service "metadata" ≠ packageMark folder ∧
      modulePath folder service "marshallers" ≠ packageMark folder := by
  have hmark : (packageMark folder).name = "__init__.py" := by
    simp [packageMark, FilePath.join, FilePath.name]
  have hlength {kind : String} (hslash : '/' ∉ kind.toList) (hlong : 7 < kind.toList.length) :
      modulePath folder service kind ≠ packageMark folder := by
    intro h
    obtain ⟨start, hname⟩ := exists_name_modulePath folder service kind hslash
    rw [h, hmark] at hname
    have := congrArg (fun s => s.toList.length) hname
    simp at this
    omega
  exact ⟨hlength (by decide) (by decide), hlength (by decide) (by decide)⟩

/-- An endpoint module and a request module have different paths. -/
theorem metadata_ne_marshallers (folder : FilePath) (service other : String) :
    modulePath folder service "metadata" ≠ modulePath folder other "marshallers" := by
  intro h
  obtain ⟨start, hname⟩ := exists_name_modulePath folder service "metadata" (by decide)
  obtain ⟨start', hname'⟩ := exists_name_modulePath folder other "marshallers" (by decide)
  rw [h, hname'] at hname
  have := congrArg (fun s => s.toList.reverse) hname
  simp at this

/-! ### Services with one path -/

/-- The name of a service in the names of modules. -/
def plainName (service : String) : String :=
  Text.lower (String.ofList (service.toList.map fun c => if c == '.' || c == '-' then '_' else c))

theorem moduleName_eq (service kind : String) :
    moduleName service kind = plainName service ++ "_" ++ kind := rfl

theorem eq_slash_of_toLower {c : Char} (h : c.toLower = '/') : c = '/' := by
  unfold Char.toLower at h
  split at h
  · rename_i hupper
    have hval := congrArg (fun c : Char => c.val.toNat) h
    have hlow := UInt32.le_iff_toNat_le.mp hupper.1
    have hhigh := UInt32.le_iff_toNat_le.mp hupper.2
    simp at hval hlow hhigh
    omega
  · exact h

theorem slash_notMem_plainName {service : String} (hascii : Text.IsAscii service)
    (hslash : '/' ∉ service.toList) : '/' ∉ (plainName service).toList := by
  have hmarked : Text.IsAscii
      (String.ofList (service.toList.map fun c => if c == '.' || c == '-' then '_' else c)) := by
    intro c hc
    rw [String.toList_ofList] at hc
    obtain ⟨d, hd, rfl⟩ := List.mem_map.mp hc
    split
    · decide
    · exact hascii d hd
  unfold plainName
  rw [Text.toList_lower hmarked, String.toList_ofList]
  intro h
  obtain ⟨c, hc, hlower⟩ := List.mem_map.mp h
  obtain ⟨d, hd, rfl⟩ := List.mem_map.mp hc
  have hslash' := eq_slash_of_toLower hlower
  split at hslash'
  · cases hslash'
  · rw [hslash'] at hd
    exact hslash hd

theorem ofText_of_notMem {s : String} (hslash : '/' ∉ s.toList) (hlong : 1 < s.toList.length) :
    FilePath.ofText s = ⟨false, [s]⟩ := by
  have hroot : (s.toList.head? == some '/') = false := by
    cases hs : s.toList with
    | nil => rfl
    | cons c rest =>
      rw [hs] at hslash
      simpa using (List.ne_of_not_mem_cons hslash).symm
  have hne (other : String) (hshort : other.toList.length ≤ 1) : (s != other) = true := by
    rw [bne_iff_ne]
    rintro rfl
    omega
  unfold FilePath.ofText
  rw [Text.pieces_of_not_mem hslash, hroot]
  simp [hne "" (by simp), hne "." (by simp)]

/-- Of ASCII names without a slash those have one path that agree when points and dashes are
underscores and all letters small. -/
theorem modulePath_eq_iff {service other kind : String} (hkind : '/' ∉ kind.toList)
    (hservice : Text.IsAscii service ∧ '/' ∉ service.toList)
    (hother : Text.IsAscii other ∧ '/' ∉ other.toList) :
    modulePath folder service kind = modulePath folder other kind ↔
      plainName service = plainName other := by
  have hpath {service : String} (h : Text.IsAscii service ∧ '/' ∉ service.toList) :
      modulePath folder service kind =
        { folder with parts := folder.parts ++ [fileName (moduleName service kind)] } := by
    unfold modulePath
    rw [ofText_of_notMem]
    · rfl
    · simp only [fileName, moduleName_eq, String.toList_append, List.mem_append, not_or]
      exact ⟨⟨⟨slash_notMem_plainName h.1 h.2, by decide⟩, hkind⟩, by decide⟩
    · have hpy : ".py".toList.length = 3 := rfl
      rw [fileName, String.toList_append, List.length_append, hpy]
      omega
  rw [hpath hservice, hpath hother]
  simp [fileName, moduleName_eq]

/-! ### What is written where -/

theorem EndpointModule.exists_render_of_source {config : GeneratorConfig} {t : PartitionTable}
    {service : String} (h : (source config t service).file.isOk = true) :
    ∃ text, render config t service = .ok text := by
  cases hrender : render config t service with
  | ok text => exact ⟨text, rfl⟩
  | error d =>
    unfold source at h
    dsimp only at h
    rw [hrender] at h
    cases h

theorem EndpointModule.textAt_eq_some_iff {config : GeneratorConfig} {t : PartitionTable}
    {service : String} {folder p : FilePath} {text : String} :
    (source config t service).textAt folder p = some text ↔
      p = modulePath folder service "metadata" ∧ render config t service = .ok text := by
  unfold ModuleSource.textAt source modulePath
  dsimp only
  cases render config t service with
  | error d => simp [Except.mapError, bind, Except.bind]
  | ok text' => simp [Except.mapError, bind, Except.bind, pure, Except.pure]

theorem RequestModule.name_of_file {config : GeneratorConfig} {m : ServiceModel}
    {name text : String} (h : (source config m).file = .ok (name, text)) :
    name = fileName (moduleName m.serviceName.text "marshallers") := by
  obtain ⟨s, hs, hname⟩ := exists_name_of_file h
  rw [hname, hs]
  rfl

theorem RequestModule.textAt_eq_some_iff {config : GeneratorConfig} {m : ServiceModel}
    {folder p : FilePath} {text : String} :
    (source config m).textAt folder p = some text ↔
      p = modulePath folder m.serviceName.text "marshallers" ∧
        (source config m).file =
          .ok (fileName (moduleName m.serviceName.text "marshallers"), text) := by
  unfold ModuleSource.textAt modulePath
  cases hfile : (source config m).file with
  | error f => simp
  | ok file =>
    obtain ⟨name, text'⟩ := file
    rw [name_of_file hfile]
    simp

theorem findSome?_textAt (hg : g.Standard t) {p : FilePath} {tried : List Attempt}
    {services : List String} (htasks : tried.map Attempt.task = services.map .endpoints)
    (hmade : ∀ a ∈ tried, a.textAt g t folder p = (a.task.source g t).textAt folder p) :
    tried.findSome? (Attempt.textAt g t folder p) =
      services.findSome? fun other => (EndpointModule.source g.config t other).textAt folder p := by
  induction tried generalizing services with
  | nil =>
    obtain rfl : services = [] := by simpa using htasks
    rfl
  | cons a rest ih =>
    cases services with
    | nil => cases htasks
    | cons service others =>
      obtain ⟨htask, hrest⟩ := List.cons.inj htasks
      have ha := hmade a (List.mem_cons_self ..)
      rw [source_endpoints hg htask] at ha
      rw [List.findSome?_cons, List.findSome?_cons, ha,
        ih hrest fun b hb => hmade b (List.mem_cons_of_mem _ hb)]

/-- A request module is not at the path of an endpoint module. -/
theorem textAt_requests (hg : g.Standard t) {a : Attempt} {model : ServiceModel}
    (htask : a.task = .requests model) (service : String) :
    a.textAt g t folder (modulePath folder service "metadata") = none := by
  rw [Option.eq_none_iff_forall_ne_some]
  intro text h
  unfold Attempt.textAt at h
  split at h
  · rw [source_requests hg htask] at h
    exact metadata_ne_marshallers folder _ _ (RequestModule.textAt_eq_some_iff.mp h).1
  · cases h

/-- An endpoint module is written if it has a text, unless the file system fails. -/
theorem textAt_endpoints (hg : g.Standard t) {a : Attempt} {service : String}
    (htask : a.task = .endpoints service) (p : FilePath)
    (h : (a.task.source g t).Outcome (host yaml) folder a.outcome) (hstays : a.escape? = none) :
    a.textAt g t folder p = (a.task.source g t).textAt folder p := by
  have hs := succeeded_eq hg htask h hstays
  unfold Attempt.textAt
  rw [hs, source_endpoints hg htask]
  unfold ModuleSource.textAt
  cases (EndpointModule.source g.config t service).file with
  | ok file => rfl
  | error f => rfl

section Last

variable (hg : g.Standard t) {services : List String} {s : Machine}
  (hstays : ∀ a ∈ (attempts (host yaml) g folder (g.tasks t services) s).1, a.escape? = none)

include hg hstays

/-- A task whose name is found to have succeeded was attempted, and succeeded. -/
theorem exists_succeeded {task : Task} (hmem : task ∈ g.tasks t services)
    (htrue : ((attempts (host yaml) g folder (g.tasks t services) s).1.foldl
      Attempt.enter []).lookup task.name = some true) :
    ∃ a ∈ (attempts (host yaml) g folder (g.tasks t services) s).1,
      a.task = task ∧ a.succeeded = true := by
  have hnamed : ∀ a ∈ (attempts (host yaml) g folder (g.tasks t services) s).1, a.Named :=
    named_of_mem_attempts hg
  obtain ⟨name, hname⟩ := (entered_foldl hnamed).isText_of_lookup htrue
  rw [hname, lookup_foldl_enter hnamed (CodeGenerator.pairwise_agrees _ folder hg hstays),
    told_eq_true_iff] at htrue
  obtain ⟨a, ha, rfl⟩ := exists_mem_attempts (host yaml) g folder hmem s
  exact ⟨a, ha, rfl, htrue.2 a ha hname⟩

/-- The file at the path of an endpoint module holds the module of the last service with this path
that the table lists. -/
theorem endpoints_files (service : String) :
    (attempts (host yaml) g folder (g.tasks t services) s).2.tree.files.lookup
        (modulePath folder service "metadata") =
      ((CodeGenerator.requested t services).reverse.findSome? fun other =>
        (EndpointModule.source g.config t other).textAt folder
          (modulePath folder service "metadata")).or
        (s.tree.files.lookup (modulePath folder service "metadata")) := by
  rw [attempts_files hg _ (modulePath_ne_packageMark folder service).1]
  unfold CodeGenerator.tasks at hstays ⊢
  rw [attempts_append] at hstays ⊢
  have hlate : ∀ a ∈ (attempts (host yaml) g folder (g.models.map .requests)
      (attempts (host yaml) g folder ((CodeGenerator.requested t services).map .endpoints) s).2).1,
      a.textAt g t folder (modulePath folder service "metadata") = none := by
    intro a ha
    obtain ⟨model, -, hmodel⟩ := List.mem_map.mp (task_mem_of_mem_attempts _ _ _ ha)
    exact textAt_requests hg hmodel.symm service
  rw [List.reverse_append, List.findSome?_append,
    List.findSome?_eq_none_iff.mpr fun a ha => hlate a (List.mem_reverse.mp ha), Option.none_or]
  refine congrArg (Option.or · _) (findSome?_textAt hg ?_ fun a ha => ?_)
  · rw [List.map_reverse, map_task_attempts, List.map_reverse]
  · have ha := List.mem_reverse.mp ha
    obtain ⟨other, -, hother⟩ := List.mem_map.mp (task_mem_of_mem_attempts _ _ _ ha)
    exact textAt_endpoints hg hother.symm _ (outcome_of_mem_attempts hg ha)
      (hstays a (List.mem_append_left _ ha))

theorem exists_last_endpoints {service : String}
    (hmem : service ∈ CodeGenerator.requested t services)
    (hs : (EndpointModule.source g.config t service).file.isOk = true) :
    ∃ before last after text, CodeGenerator.requested t services = before ++ last :: after ∧
      modulePath folder last "metadata" = modulePath folder service "metadata" ∧
      (∀ other ∈ after,
        modulePath folder other "metadata" = modulePath folder service "metadata" →
          ∃ d, EndpointModule.render g.config t other = .error d) ∧
      EndpointModule.render g.config t last = .ok text ∧
      (attempts (host yaml) g folder (g.tasks t services) s).2.tree.files.lookup
        (modulePath folder service "metadata") = some text := by
  rw [endpoints_files hg hstays]
  obtain ⟨text₀, hrender⟩ := EndpointModule.exists_render_of_source hs
  cases hfind : (CodeGenerator.requested t services).reverse.findSome? fun other =>
      (EndpointModule.source g.config t other).textAt folder
        (modulePath folder service "metadata") with
  | none =>
    have hnone := List.findSome?_eq_none_iff.mp hfind service (List.mem_reverse.mpr hmem)
    rw [EndpointModule.textAt_eq_some_iff.mpr ⟨rfl, hrender⟩] at hnone
    cases hnone
  | some text =>
    obtain ⟨later, last, earlier, hreverse, hlast, hlater⟩ := List.findSome?_eq_some_iff.mp hfind
    obtain ⟨hpath, hlast⟩ := EndpointModule.textAt_eq_some_iff.mp hlast
    refine ⟨earlier.reverse, last, later.reverse, text, ?_, hpath.symm,
      fun other hother hpath => ?_, hlast, rfl⟩
    · rw [← List.reverse_reverse (CodeGenerator.requested t services), hreverse]
      simp
    · have hnone := hlater other (List.mem_reverse.mp hother)
      cases hrefused : EndpointModule.render g.config t other with
      | error d => exact ⟨d, rfl⟩
      | ok text' =>
        rw [EndpointModule.textAt_eq_some_iff.mpr ⟨hpath.symm, hrefused⟩] at hnone
        cases hnone

end Last

/-- The file at the path of a request module that was written holds a request module with this
path. -/
theorem exists_requests (hg : g.Standard t) {services : List String} {s : Machine} {a : Attempt}
    {model : ServiceModel} (ha : a ∈ (attempts (host yaml) g folder (g.tasks t services) s).1)
    (htask : a.task = .requests model) (hs : a.succeeded = true) :
    ∃ other ∈ g.models, ∃ text,
      modulePath folder other.serviceName.text "marshallers" =
        modulePath folder model.serviceName.text "marshallers" ∧
      (RequestModule.source g.config other).file =
        .ok (fileName (moduleName other.serviceName.text "marshallers"), text) ∧
      (attempts (host yaml) g folder (g.tasks t services) s).2.tree.files.lookup
        (modulePath folder model.serviceName.text "marshallers") = some text := by
  rw [attempts_files hg _ (modulePath_ne_packageMark folder _).2]
  have hfile := (outcome_of_mem_attempts hg ha).exists_file hs
  rw [source_requests hg htask] at hfile
  obtain ⟨name, text₀, hfile⟩ := hfile
  have hown : a.textAt g t folder (modulePath folder model.serviceName.text "marshallers") =
      some text₀ := by
    unfold Attempt.textAt
    rw [if_pos hs, source_requests hg htask]
    exact RequestModule.textAt_eq_some_iff.mpr
      ⟨rfl, by rw [hfile, RequestModule.name_of_file hfile]⟩
  cases hfind : (attempts (host yaml) g folder (g.tasks t services) s).1.reverse.findSome?
      (Attempt.textAt g t folder (modulePath folder model.serviceName.text "marshallers")) with
  | none =>
    have hnone := List.findSome?_eq_none_iff.mp hfind a (List.mem_reverse.mpr ha)
    rw [hown] at hnone
    cases hnone
  | some text =>
    obtain ⟨b, hb, hlast⟩ := List.exists_of_findSome?_eq_some hfind
    have hmem := task_mem_of_mem_attempts _ _ _ (List.mem_reverse.mp hb)
    unfold Attempt.textAt at hlast
    split at hlast
    · cases htask' : b.task with
      | endpoints other =>
        rw [source_endpoints hg htask'] at hlast
        exact absurd (EndpointModule.textAt_eq_some_iff.mp hlast).1.symm
          (metadata_ne_marshallers folder _ _)
      | requests other =>
        rw [htask'] at hmem
        rw [source_requests hg htask'] at hlast
        obtain ⟨hpath, hfile⟩ := RequestModule.textAt_eq_some_iff.mp hlast
        have hother : other ∈ g.models := by simpa [CodeGenerator.tasks] using hmem
        exact ⟨other, hother, text, hpath.symm, hfile, rfl⟩
    · cases hlast

namespace CodeGenerator

/-- Each service and each model that is said to have succeeded has a file at the path of its module.
It holds the module of the last asked-for service with this path that the table lists, or the module
of a model with this path; so its own if no other has this path. Of ASCII names without a slash
those have one path that agree when points and dashes are underscores and all letters small. -/
theorem generateAll_files (hg : g.Standard t) {services : List String} {s s' : Machine}
    {results : Results}
    (h : (g.generateAll (host yaml) folder services).run.run s = (.ok results, s')) :
    (∀ service ∈ requested t services, results.lookup (.str service) = some true →
      (∃ before last after text, requested t services = before ++ last :: after ∧
        modulePath folder last "metadata" = modulePath folder service "metadata" ∧
        (∀ other ∈ after,
          modulePath folder other "metadata" = modulePath folder service "metadata" →
            ∃ d, EndpointModule.render g.config t other = .error d) ∧
        EndpointModule.render g.config t last = .ok text ∧
        s'.tree.files.lookup (modulePath folder service "metadata") = some text) ∧
      ((∀ other ∈ requested t services,
          modulePath folder other "metadata" = modulePath folder service "metadata" →
            other = service) →
        ∃ text, EndpointModule.render g.config t service = .ok text ∧
          s'.tree.files.lookup (modulePath folder service "metadata") = some text)) ∧
    (∀ model ∈ g.models, results.lookup model.serviceName = some true →
      (∃ other ∈ g.models, ∃ text,
        modulePath folder other.serviceName.text "marshallers" =
          modulePath folder model.serviceName.text "marshallers" ∧
        (RequestModule.source g.config other).file =
          .ok (fileName (moduleName other.serviceName.text "marshallers"), text) ∧
        s'.tree.files.lookup (modulePath folder model.serviceName.text "marshallers") =
          some text) ∧
      ((∀ other ∈ g.models,
          modulePath folder other.serviceName.text "marshallers" =
            modulePath folder model.serviceName.text "marshallers" → other = model) →
        ∃ text, (RequestModule.source g.config model).file =
            .ok (fileName (moduleName model.serviceName.text "marshallers"), text) ∧
          s'.tree.files.lookup (modulePath folder model.serviceName.text "marshallers") =
            some text)) ∧
    ∀ service other, Text.IsAscii service ∧ '/' ∉ service.toList →
      Text.IsAscii other ∧ '/' ∉ other.toList →
      (modulePath folder service "metadata" = modulePath folder other "metadata" ↔
        plainName service = plainName other) := by
  obtain ⟨s₀, hprepare⟩ := exists_prepare (host yaml) folder hg h
  have hstays := stays_of_run_generateAll (host yaml) folder hg hprepare h
  rw [run_generateAll_of_stays (host yaml) folder hg hprepare hstays] at h
  obtain ⟨hresults, hs'⟩ := Prod.mk.inj h
  obtain rfl := Except.ok.inj hresults
  have htree : s'.tree = (attempts (host yaml) g folder (g.tasks t services) s₀).2.tree := by
    rw [← hs']
    rfl
  rw [htree]
  refine ⟨fun service hmem htrue => ?_, fun model hmem htrue => ?_,
    fun service other => modulePath_eq_iff (by decide)⟩
  · obtain ⟨a, ha, htask, hs⟩ := exists_succeeded hg hstays (mem_tasks_of_requested g hmem) htrue
    rw [succeeded_eq hg htask (outcome_of_mem_attempts hg ha) (hstays a ha)] at hs
    have hlast := exists_last_endpoints hg hstays hmem hs
    refine ⟨hlast, fun hown => ?_⟩
    obtain ⟨before, last, after, text, hsplit, hpath, -, hrender, hfile⟩ := hlast
    obtain rfl := hown last (by simp [hsplit]) hpath
    exact ⟨text, hrender, hfile⟩
  · obtain ⟨a, ha, htask, hs⟩ := exists_succeeded hg hstays
      (mem_tasks_of_model t services hmem) htrue
    have hother := exists_requests hg ha htask hs
    refine ⟨hother, fun hown => ?_⟩
    obtain ⟨other, hmem', text, hpath, hmodule, hfile⟩ := hother
    obtain rfl := hown other hmem' hpath
    exact ⟨text, hmodule, hfile⟩

/-! ### Cases -/

/-- A table with services whose names differ in a dash and a point. -/
def deviceTable : PartitionTable where
  partitions :=
    [{ name := .str "north"
       dnsSuffix := .str "north.test"
       rule := .absent .null
       regions := []
       services := [("iot-data", []), ("iot.data", []), ("storage", [])] }]

/-- The generator for it. -/
def devices : CodeGenerator := { table? := some deviceTable }

theorem standard_devices : devices.Standard deviceTable := ⟨rfl, rfl, rfl⟩

/-- The run that generates their modules. -/
def deviceRun : Except WireError Results × Machine :=
  (devices.generateAll (host Yaml.reader) outputFolder
    ["iot-data", "iot.data", "storage"]).run.run {}

/-- The results of that run. -/
def deviceResults : Results :=
  [(.str "iot-data", true), (.str "iot.data", true), (.str "storage", true)]

theorem deviceRun_eq : deviceRun = (.ok deviceResults, deviceRun.2) := by
  have htexts : deviceRun.1.toOption.map Entries.texts =
      some [("iot-data", true), ("iot.data", true), ("storage", true)] := by decide +kernel
  have hlength : deviceRun.1.toOption.map List.length = some 3 := by decide +kernel
  have hresults : deviceRun.1 = .ok deviceResults := by
    cases hrun : deviceRun.1 with
    | error e =>
      rw [hrun] at hlength
      cases hlength
    | ok results =>
      rw [hrun] at htexts hlength
      rw [Entries.eq_of_texts (Option.some.inj htexts) (Option.some.inj hlength)]
      rfl
  rw [← hresults]

/-- The module of the storage is in its file. -/
theorem generateAll_files_devices :
    ∃ text, EndpointModule.render devices.config deviceTable "storage" = .ok text ∧
      deviceRun.2.tree.files.lookup (modulePath outputFolder "storage" "metadata") = some text := by
  have hservices := (generateAll_files standard_devices deviceRun_eq).1
  exact (hservices "storage" (by decide +kernel) (by decide)).2 (by decide +kernel)

/-- The module of one of two services with one path is not in its file, although both are said to
have succeeded. -/
theorem deviceRun_lost :
    deviceRun = (.ok deviceResults, deviceRun.2) ∧
    modulePath outputFolder "iot-data" "metadata" = modulePath outputFolder "iot.data" "metadata" ∧
    deviceRun.2.tree.files.lookup (modulePath outputFolder "iot-data" "metadata") ≠
      (EndpointModule.render devices.config deviceTable "iot-data").toOption := by
  refine ⟨deviceRun_eq, by decide +kernel, ?_⟩
  have hother : (deviceRun.2.tree.files.lookup (modulePath outputFolder "iot-data" "metadata") ==
      (EndpointModule.render devices.config deviceTable "iot-data").toOption) = false := by
    decide +kernel
  exact ne_of_beq_false hother

end CodeGenerator

end Codegen

end ServiceWire
