import ServiceWire.Proofs.Codec.Success
import ServiceWire.Proofs.Host.Files

/-!
# Process-wide settings

The settings of a process are asked for, replaced, and loaded from files, in any order and whatever
reads the files. Settings that are put in force have passed their check, and a call that fails
changes nothing. The settings of the environment are the exception: they are in force from the first
time they are asked for until others are put in their place, and nobody checks them. So what is
answered passes its check exactly if it was put in force by a call, or if the environment has values
that are allowed.
-/

namespace ServiceWire

namespace Settings

/-- What comes of loading the settings in a file. -/
def inFile (yaml : YamlReader) (host : Machine) (path : FilePath) : Except WireError Settings :=
  ((loadFile (Machine.host yaml) path).run.run host).1

/-- Loading settings from a file leaves the machine as it is. -/
theorem run_loadFile (yaml : YamlReader) (host : Machine) (path : FilePath) :
    (loadFile (Machine.host yaml) path).run.run host = (inFile yaml host path, host) := by
  have hlooks : (loadFile (Machine.host yaml) path).Looks := by
    refine .bind (Action.looks_readFile _ _ _ _ _) fun v => ?_
    split
    · exact Action.looks_ofFault _
    · exact Action.looks_ofFault _
    · exact Action.looks_throw _
  exact Prod.ext rfl (hlooks host)

/-! ### Settings of the environment -/

/-- Whether the variables that can hold a value which is not allowed have allowed ones. -/
structure VariablesAllowed (env : Variables) : Prop where
  version : ∀ v, env.lookup (variableStart ++ "JSON_VERSION") = some v → v ∈ ["1.0", "1.1"]
  suffix : env.lookup (variableStart ++ "DNS_SUFFIX") ≠ some ""
  scheme : ∀ v, env.lookup (variableStart ++ "ENDPOINT_SCHEME") = some v → v ∈ ["http", "https"]

theorem problems_eq_nil_iff (s : Settings) :
    s.problems = [] ↔ isOneOf s.protocol.jsonVersion ["1.0", "1.1"] = true ∧
      s.regions.defaultDnsSuffix.truthy = true ∧
      isOneOf s.regions.endpointScheme ["http", "https"] = true ∧
      s.eventStream.defaultContentType.truthy = true := by
  simp [problems]

/-- A variable that may be absent holds one of some texts if it is absent or has one of them, as
long as the default is one. -/
theorem isOneOf_variable {v? : Option String} {default : String} {texts : List String}
    (h : default ∈ texts) :
    isOneOf ((v?.map Value.str).getD (.str default)) texts = true ↔
      ∀ v, v? = some v → v ∈ texts := by
  cases v? with
  | none => simp [isOneOf, h]
  | some v => simp [isOneOf]

theorem truthy_variable {v? : Option String} {default : String} (h : default ≠ "") :
    ((v?.map Value.str).getD (.str default)).truthy = true ↔ v? ≠ some "" := by
  cases v? with
  | none => simp [Value.truthy, h]
  | some v => simp [Value.truthy]

/-- The settings of variables pass their check if the variables are allowed. -/
theorem check_ofVariables {env : Variables} {s : Settings}
    (h : ofVariables variableStart env = .ok s) : s.check = .ok () ↔ VariablesAllowed env := by
  rw [ofVariables] at h
  obtain ⟨environment, -, h⟩ := exists_of_bind h
  obtain ⟨level, -, h⟩ := exists_of_bind h
  obtain rfl := Except.ok.inj h
  rw [check_eq_ok_iff, problems_eq_nil_iff]
  constructor
  · rintro ⟨hversion, hsuffix, hscheme, -⟩
    exact ⟨(isOneOf_variable (by decide)).mp hversion, (truthy_variable (by decide)).mp hsuffix,
      (isOneOf_variable (by decide)).mp hscheme⟩
  · rintro ⟨hversion, hsuffix, hscheme⟩
    exact ⟨(isOneOf_variable (by decide)).mpr hversion, (truthy_variable (by decide)).mpr hsuffix,
      (isOneOf_variable (by decide)).mpr hscheme, rfl⟩

/-! ### Calls -/

/-- A call that asks for the settings in force or replaces them. -/
inductive Call
  | get
  | set (s : Settings)
  | load (path : FilePath)

/-- Settings that pass their check. -/
def checked? (s : Settings) : Option Settings := if s.problems.isEmpty then some s else none

theorem checked?_eq_some {s s' : Settings} (h : s.checked? = some s') : s'.check = .ok () := by
  rw [checked?] at h
  split at h
  · next hempty =>
    obtain rfl : s = s' := Option.some.inj h
    exact (check_eq_ok_iff s).mpr (List.isEmpty_iff.mp hempty)
  · cases h

/-- The settings that a call puts in force. -/
def Call.installs (yaml : YamlReader) (host : Machine) : Call → Option Settings
  | .get => none
  | .set s => s.checked?
  | .load path => (inFile yaml host path).toOption.bind checked?

theorem Call.check_installs {yaml : YamlReader} {host : Machine} {c : Call} {s : Settings}
    (h : c.installs yaml host = some s) : s.check = .ok () := by
  cases c with
  | get => cases h
  | set s' => exact checked?_eq_some h
  | load path =>
    obtain ⟨s', -, hs⟩ := Option.bind_eq_some_iff.mp h
    exact checked?_eq_some hs

/-- The settings that the last of some calls that put any in force put in force. -/
def latest (yaml : YamlReader) (host : Machine) : List Call → Option Settings
  | [] => none
  | c :: rest => (latest yaml host rest).or (c.installs yaml host)

theorem check_latest {yaml : YamlReader} {host : Machine} {calls : List Call} {s : Settings}
    (h : latest yaml host calls = some s) : s.check = .ok () := by
  induction calls with
  | nil => cases h
  | cons c rest ih =>
    rw [latest, Option.or_eq_some_iff] at h
    rcases h with h | ⟨-, h⟩
    · exact ih h
    · exact Call.check_installs h

namespace Shared

section Answer

variable {m : Type → Type} [Monad m]

/-- What a call answers, settings or nothing, and what is in force afterwards. -/
def answer (host : Host m) (p : Shared) : Call → m (Except WireError (Option Settings) × Shared)
  | .get => pure ((p.get.1.mapError .failure).map some, p.get.2)
  | .set s => pure (((p.set s).1.mapError .configuration).map fun _ => none, (p.set s).2)
  | .load path => do
    let (r, p) ← p.load host path
    return (r.map some, p)

/-- What is in force after some calls. -/
def after (host : Host m) (calls : List Call) (p : Shared) : m Shared :=
  calls.foldlM (fun p c => do return (← p.answer host c).2) p

end Answer

/-! ### One call -/

theorem get_get (p : Shared) : p.get.2.get.1 = p.get.1 := by
  obtain ⟨current, env⟩ := p
  cases current with
  | some s => rfl
  | none =>
    cases h : ofVariables variableStart env with
    | ok s => simp only [get, h]
    | error f => simp only [get, h]

/-- What a call does: it answers, what is asked for afterwards is what it put in force, if anything,
and if it fails, nothing has changed. -/
structure Does (yaml : YamlReader) (host : Machine) (p : Shared) (c : Call)
    (r : Except WireError (Option Settings)) (p' : Shared) : Prop where
  runs : (p.answer (Machine.host yaml) c).run host = ((r, p'), host)
  inForce : p'.get.1 = (c.installs yaml host).elim p.get.1 .ok
  failed : ∀ e, r = .error e → p' = p

theorem does_get (yaml : YamlReader) (host : Machine) (p : Shared) :
    Does yaml host p .get ((p.get.1.mapError .failure).map some) p.get.2 where
  runs := rfl
  inForce := get_get p
  failed e h := by
    obtain ⟨current, env⟩ := p
    cases current with
    | some s => rfl
    | none =>
      rw [get] at h ⊢
      cases hs : ofVariables variableStart env with
      | ok s =>
        rw [hs] at h
        cases h
      | error f => rfl

/-- Settings are put in force if they pass their check. -/
theorem set_eq (p : Shared) (s : Settings) :
    p.set s = if s.problems.isEmpty then (.ok (), { p with current := some s })
      else (.error (.settingsRejected s.problems), p) := by
  rw [set, check]
  cases s.problems.isEmpty with
  | true => rfl
  | false => rfl

theorem does_set (yaml : YamlReader) (host : Machine) (p : Shared) (s : Settings) :
    Does yaml host p (.set s) (((p.set s).1.mapError .configuration).map fun _ => none)
      (p.set s).2 where
  runs := rfl
  inForce := by
    rw [set_eq, Call.installs, checked?]
    cases s.problems.isEmpty with
    | true => rfl
    | false => rfl
  failed e h := by
    rw [set_eq] at h ⊢
    cases hp : s.problems.isEmpty with
    | true =>
      rw [hp] at h
      cases h
    | false => rfl

theorem run_load_of_error {yaml : YamlReader} {host : Machine} {path : FilePath} {e : WireError}
    (h : inFile yaml host path = .error e) (p : Shared) :
    (p.load (Machine.host yaml) path).run host = ((.error e, p), host) := by
  rw [load, StateT.run_bind, run_loadFile, h]
  rfl

theorem run_load_of_ok {yaml : YamlReader} {host : Machine} {path : FilePath} {s : Settings}
    (h : inFile yaml host path = .ok s) (p : Shared) :
    (p.load (Machine.host yaml) path).run host =
      ((((p.set s).1.mapError .configuration).map fun _ => s, (p.set s).2), host) := by
  rw [load, StateT.run_bind, run_loadFile, h]
  rfl

theorem exists_does_load (yaml : YamlReader) (host : Machine) (p : Shared) (path : FilePath) :
    ∃ r p', Does yaml host p (.load path) r p' := by
  cases hfile : inFile yaml host path with
  | error e =>
    refine ⟨.error e, p, ?_, ?_, fun _ _ => rfl⟩
    · rw [answer, StateT.run_bind, run_load_of_error hfile]
      rfl
    · rw [Call.installs, hfile]
      rfl
  | ok s =>
    have hset := does_set yaml host p s
    refine ⟨((((p.set s).1.mapError .configuration).map fun _ => s).map some), (p.set s).2, ?_, ?_,
      fun e h => ?_⟩
    · rw [answer, StateT.run_bind, run_load_of_ok hfile]
      rfl
    · rw [hset.inForce, Call.installs, Call.installs, hfile]
      rfl
    · cases hr : (p.set s).1 with
      | ok u =>
        rw [hr] at h
        cases h
      | error d => exact hset.failed (.configuration d) (by rw [hr]; rfl)

theorem exists_does (yaml : YamlReader) (host : Machine) (p : Shared) (c : Call) :
    ∃ r p', Does yaml host p c r p' := by
  cases c with
  | get => exact ⟨_, _, does_get yaml host p⟩
  | set s => exact ⟨_, _, does_set yaml host p s⟩
  | load path => exact exists_does_load yaml host p path

/-! ### Any number of calls -/

/-- After any calls that is in force which was put in force last, and what was there before if none
of them put anything in force. -/
theorem exists_after (yaml : YamlReader) (host : Machine) (calls : List Call) (p : Shared) :
    ∃ p', (after (Machine.host yaml) calls p).run host = (p', host) ∧
      p'.get.1 = (latest yaml host calls).elim p.get.1 .ok := by
  induction calls generalizing p with
  | nil => exact ⟨p, rfl, rfl⟩
  | cons c rest ih =>
    obtain ⟨r, next, hdoes⟩ := exists_does yaml host p c
    obtain ⟨p', hrun, hforce⟩ := ih next
    refine ⟨p', ?_, ?_⟩
    · rw [after, List.foldlM_cons, StateT.run_bind, StateT.run_bind, hdoes.runs]
      exact hrun
    -- What the rest put in force counts, and what the first call did only if that is nothing.
    · rw [hforce, hdoes.inForce, latest]
      cases latest yaml host rest with
      | none => rfl
      | some s => rfl

/-- The settings that are answered after any calls are those that were put in force last, or else
those of the environment. They pass their check if any were put in force, and otherwise exactly if
the variables are allowed. A call that fails changes nothing. -/
theorem get_after (yaml : YamlReader) (host : Machine) (calls : List Call) :
    ∃ p, (after (Machine.host yaml) calls { environment := host.environment }).run host =
        (p, host) ∧
      p.get.1 = (latest yaml host calls).elim (ofVariables variableStart host.environment) .ok ∧
      (∀ s, p.get.1 = .ok s →
        (s.check = .ok () ↔ (latest yaml host calls).isSome ∨ VariablesAllowed host.environment)) ∧
      ∀ c, ∃ r p', (p.answer (Machine.host yaml) c).run host = ((r, p'), host) ∧
        ∀ e, r = .error e → p' = p := by
  obtain ⟨p, hrun, hforce⟩ := exists_after yaml host calls { environment := host.environment }
  have hstart : (get { environment := host.environment }).1 =
      ofVariables variableStart host.environment := by
    rw [get]
    cases ofVariables variableStart host.environment with
    | ok s => rfl
    | error f => rfl
  rw [hstart] at hforce
  refine ⟨p, hrun, hforce, fun s hs => ?_, fun c => ?_⟩
  · rw [hforce] at hs
    cases hlatest : latest yaml host calls with
    | some s' =>
      rw [hlatest] at hs
      obtain rfl : s' = s := Except.ok.inj hs
      exact iff_of_true (check_latest hlatest) (.inl rfl)
    | none =>
      rw [hlatest] at hs
      rw [check_ofVariables hs]
      simp
  · obtain ⟨r, p', hdoes⟩ := exists_does yaml host p c
    exact ⟨r, p', hdoes.runs, hdoes.failed⟩

/-- The settings of an environment with an unknown version are answered, and not allowed. -/
theorem get_after_unknownVersion :
    ∃ s, (get { environment := [("SHAPEWIRE_JSON_VERSION", "2.0")] }).1 = .ok s ∧
      s.check = .error (.settingsRejected ["Unsupported JSON protocol version: 2.0"]) :=
  ⟨_, rfl, rfl⟩

end Shared

end Settings

end ServiceWire
