import ServiceWire.Host.FileTree
import ServiceWire.Host.Loading
import ServiceWire.Proofs.Codec.Success

/-!
# Actions on a machine in memory

What actions do step by step, and which of them only look at the machine. Reading a file changes
nothing; a log entry changes the journal and leaves the files as they are. Where nothing is loaded
from a file, there is a reason: the file is not there, or is a folder, its text has not the form of
a document or is refused in another way, or the document is not what it should be. All of this holds
whatever reads YAML.
-/

namespace ServiceWire

/-! ### Steps -/

namespace Action

section Steps

variable {σ α β : Type} {x : Action (StateM σ) α} {f : α → Action (StateM σ) β} {s s' : σ}

theorem run_bind_of_ok {a : α} (h : x.run.run s = (.ok a, s')) :
    (x >>= f).run.run s = (f a).run.run s' := by
  rw [ExceptT.run_bind, StateT.run_bind, h]
  rfl

theorem run_bind_of_error {e : WireError} (h : x.run.run s = (.error e, s')) :
    (x >>= f).run.run s = (.error e, s') := by
  rw [ExceptT.run_bind, StateT.run_bind, h]
  rfl

theorem run_ofFault (y : Except Fault α) :
    (ofFault y : Action (StateM σ) α).run.run s = (y.mapError Fault.toError, s) := rfl

end Steps

variable {α β : Type} {x : Action (StateM Machine) α} {f : α → Action (StateM Machine) β}

/-- Whether an action leaves the machine as it is. -/
def Looks (x : Action (StateM Machine) α) : Prop := ∀ s, (x.run.run s).2 = s

theorem Looks.bind (hx : x.Looks) (hf : ∀ a, (f a).Looks) : (x >>= f).Looks := by
  intro s
  have hs := hx s
  cases hr : x.run.run s with
  | mk r s' =>
    rw [hr] at hs
    obtain rfl : s' = s := hs
    cases r with
    | ok a =>
      rw [run_bind_of_ok hr]
      exact hf a s'
    | error e => rw [run_bind_of_error hr]

theorem looks_pure (a : α) : (pure a : Action (StateM Machine) α).Looks := fun _ => rfl

theorem looks_throw (e : WireError) : (throw e : Action (StateM Machine) α).Looks := fun _ => rfl

theorem looks_ofFault (x : Except Fault α) : (ofFault x : Action (StateM Machine) α).Looks :=
  fun _ => rfl

theorem looks_readFile (yaml : YamlReader) (path : FilePath) (missing : Defect)
    (malformed? : FailureKind → Option Defect) (read : String → Except FailureKind α) :
    ((Machine.host yaml).readFile path missing malformed? read).Looks := by
  have hpresent : (liftM ((Machine.host yaml).isPresent path) :
      Action (StateM Machine) Bool).Looks := fun _ => rfl
  have htext : (ofHost ((Machine.host yaml).readText path) :
      Action (StateM Machine) String).Looks := fun _ => rfl
  refine .bind hpresent fun present => ?_
  cases present with
  | false => exact looks_throw _
  | true =>
    refine .bind htext fun text => ?_
    split
    · exact looks_pure _
    · split
      · exact looks_throw _
      · exact looks_throw _

end Action

/-! ### Operations of the host -/

namespace Machine

variable (yaml : YamlReader) (keep : LogEntry → Bool) {s : Machine}

/-- The host in memory that keeps some log entries. -/
abbrev keeping : Host (StateM Machine) := (host yaml).filtered keep

/-- The machine after a log entry. -/
def noted (s : Machine) (keep : LogEntry → Bool) (e : LogEntry) : Machine :=
  if keep e then { s with journal := s.journal ++ [e] } else s

/-- A log entry leaves the files as they are. -/
theorem tree_noted (s : Machine) (e : LogEntry) : (s.noted keep e).tree = s.tree := by
  rw [noted]
  split <;> rfl

theorem run_log (e : LogEntry) : ((keeping yaml keep).log e).run s = ((), s.noted keep e) := by
  rw [noted]
  cases hkeep : keep e with
  | true | false => simp [Host.filtered, hkeep]; rfl

theorem run_liftM_log (e : LogEntry) :
    (liftM ((keeping yaml keep).log e) : Action (StateM Machine) Unit).run.run s =
      (.ok (), s.noted keep e) := by
  have hlift : (liftM ((keeping yaml keep).log e) : Action (StateM Machine) Unit).run.run s =
      (fun p => (.ok p.1, p.2)) (((keeping yaml keep).log e).run s) := rfl
  rw [hlift, run_log]

theorem run_isPresent {path : FilePath} {b : Bool} (h : s.tree.isPresent path = b) :
    (liftM ((keeping yaml keep).isPresent path) : Action (StateM Machine) Bool).run.run s =
      (.ok b, s) := by
  rw [← h]
  rfl

theorem run_ofHost_readText (path : FilePath) :
    (Action.ofHost ((keeping yaml keep).readText path)).run.run s =
      ((s.tree.read path).mapError fun k => .failure (.plain k), s) := rfl

theorem run_readText {path : FilePath} {text : String} (h : s.tree.read path = .ok text) :
    (Action.ofHost ((keeping yaml keep).readText path)).run.run s = (.ok text, s) := by
  rw [run_ofHost_readText, h]
  rfl

theorem run_readText_of_error {path : FilePath} {k : FailureKind}
    (h : s.tree.read path = .error k) :
    (Action.ofHost ((keeping yaml keep).readText path)).run.run s =
      (.error (.failure (.plain k)), s) := by
  rw [run_ofHost_readText, h]
  rfl

end Machine

/-! ### Documents in files -/

namespace FileTree

/-- A file holds a document. -/
def Holds (yaml : YamlReader) (t : FileTree) (path : FilePath) (d : Json) : Prop :=
  ∃ text, t.read path = .ok text ∧ readDocument yaml path.isJson text = .ok d

/-- Why nothing is loaded from a file: it is not there, it has no text, its text has not the form of
a document, its text is refused in another way, or the document is not loaded. -/
inductive Refused {α : Type} (yaml : YamlReader) (t : FileTree) (path : FilePath)
    (missing : Defect) (malformed : FailureKind → Defect) (load : Json → Except Fault α) :
    WireError → Prop
  | missing (h : t.isPresent path = false) :
      Refused yaml t path missing malformed load (.configuration missing)
  | closed {k : FailureKind} (present : t.isPresent path = true) (h : t.read path = .error k) :
      Refused yaml t path missing malformed load (.failure (.plain k))
  | malformed {text : String} {k : FailureKind} (read : t.read path = .ok text)
      (h : readDocument yaml path.isJson text = .error k) (form : k.isMalformed = true) :
      Refused yaml t path missing malformed load (.configuration (malformed k))
  | unread {text : String} {k : FailureKind} (read : t.read path = .ok text)
      (h : readDocument yaml path.isJson text = .error k) (form : k.isMalformed = false) :
      Refused yaml t path missing malformed load (.failure (.plain k))
  | unloaded {d : Json} {e : Fault} (holds : t.Holds yaml path d) (h : load d = .error e) :
      Refused yaml t path missing malformed load e.toError

/-- Whether what is at a path, if anything, is a file with a text that is malformed or a document,
and the document is one of some kind. -/
structure Readable (yaml : YamlReader) (t : FileTree) (path : FilePath) (P : Json → Prop) :
    Prop where
  isFile : ∀ k, t.read path = .error k → t.isPresent path = false
  form : ∀ text k, t.read path = .ok text → readDocument yaml path.isJson text = .error k →
    k.isMalformed = true
  document : ∀ d, t.Holds yaml path d → P d

/-- Where a document of some kind is loaded or found defective, and the file can be read, what is
wrong is a defect. -/
theorem Refused.exists_defect {α : Type} {yaml : YamlReader} {t : FileTree} {path : FilePath}
    {missing : Defect} {malformed : FailureKind → Defect} {load : Json → Except Fault α}
    {P : Json → Prop} {e : WireError} (h : t.Refused yaml path missing malformed load e)
    (readable : t.Readable yaml path P)
    (hload : ∀ d fault, P d → load d = .error fault → ∃ defect, fault = .defect defect) :
    ∃ defect, e = .configuration defect := by
  cases h with
  | missing => exact ⟨_, rfl⟩
  | closed present h =>
    rw [readable.isFile _ h] at present
    cases present
  | malformed => exact ⟨_, rfl⟩
  | unread read h form =>
    rw [readable.form _ _ read h] at form
    cases form
  | unloaded holds h =>
    obtain ⟨defect, rfl⟩ := hload _ _ (readable.document _ holds) h
    exact ⟨defect, rfl⟩

theorem isPresent_of_read {t : FileTree} {path : FilePath} {text : String}
    (h : t.read path = .ok text) : t.isPresent path = true := by
  rw [read] at h
  cases hlookup : t.files.lookup path with
  | none =>
    rw [hlookup] at h
    cases h
  | some text' => simp [isPresent, isFile, Entries.has, hlookup]

end FileTree

section Document

variable (yaml : YamlReader) (keep : LogEntry → Bool) {s : Machine} {path : FilePath}
  {missing : Defect} {malformed : FailureKind → Defect}

theorem run_document_of_read {text : String} (h : s.tree.read path = .ok text) :
    ((Machine.keeping yaml keep).document path missing malformed).run.run s =
      ((readDocument yaml path.isJson text).mapError fun k =>
        if k.isMalformed then .configuration (malformed k) else .failure (.plain k), s) := by
  have hpresent := Machine.run_isPresent yaml keep (FileTree.isPresent_of_read h)
  rw [Host.document, Host.readFile, Action.run_bind_of_ok hpresent]
  refine (Action.run_bind_of_ok (Machine.run_readText yaml keep h)).trans ?_
  have hyaml : (Machine.keeping yaml keep).yaml = yaml := rfl
  rw [hyaml]
  cases readDocument yaml path.isJson text with
  | ok d => rfl
  | error k =>
    dsimp only
    rw [mapError_error]
    cases k.isMalformed with
    | true => rfl
    | false => rfl

/-- A document in a file is read. -/
theorem run_document_of_holds {d : Json} (h : s.tree.Holds yaml path d) :
    ((Machine.keeping yaml keep).document path missing malformed).run.run s = (.ok d, s) := by
  obtain ⟨text, hread, hd⟩ := h
  rw [run_document_of_read yaml keep hread, hd]
  rfl

/-- Where nothing is loaded from a file, there is no document to read, or the one that is read is
not loaded. -/
theorem run_document_of_refused {α : Type} {load : Json → Except Fault α} {e : WireError}
    (h : s.tree.Refused yaml path missing malformed load e) :
    ((Machine.keeping yaml keep).document path missing malformed).run.run s = (.error e, s) ∨
      ∃ d fault, ((Machine.keeping yaml keep).document path missing malformed).run.run s =
        (.ok d, s) ∧ load d = .error fault ∧ e = fault.toError := by
  cases h with
  | missing h =>
    refine .inl ?_
    rw [Host.document, Host.readFile, Action.run_bind_of_ok (Machine.run_isPresent yaml keep h)]
    rfl
  | closed present h =>
    refine .inl ?_
    rw [Host.document, Host.readFile,
      Action.run_bind_of_ok (Machine.run_isPresent yaml keep present)]
    exact Action.run_bind_of_error (Machine.run_readText_of_error yaml keep h)
  | malformed read h form =>
    refine .inl ?_
    rw [run_document_of_read yaml keep read, h, mapError_error, if_pos form]
  | unread read h form =>
    refine .inl ?_
    rw [run_document_of_read yaml keep read, h, mapError_error, form]
    rfl
  | unloaded holds h => exact .inr ⟨_, _, run_document_of_holds yaml keep holds, h, rfl⟩

end Document

end ServiceWire
