import ServiceWire.Proofs.Host.Files

/-!
# How actions end

What an action ends with, and the state in which it leaves the system, put together from its steps.
Hosts differ in how they fail; a host that fails to make folders and to write files only as file
systems do is told apart, and the one in memory is of that kind.
-/

namespace ServiceWire

namespace Action

variable {σ α β : Type} {x : Action (StateM σ) α} {f : α → Action (StateM σ) β} {s : σ}

/-- An action that starts in a state of the system ends as said. -/
def Ends (x : Action (StateM σ) α) (s : σ) (P : Except WireError α → σ → Prop) : Prop :=
  P (x.run.run s).1 (x.run.run s).2

theorem Ends.mono {P Q : Except WireError α → σ → Prop} (h : x.Ends s P)
    (hpq : ∀ r s', P r s' → Q r s') : x.Ends s Q :=
  hpq _ _ h

/-- An action in two steps ends as the second does where the first leaves off, or with the error of
the first. -/
theorem Ends.bind {P : Except WireError β → σ → Prop}
    (h : x.Ends s fun r s' =>
      match r with
      | .ok a => (f a).Ends s' P
      | .error e => P (.error e) s') :
    (x >>= f).Ends s P := by
  unfold Ends at h ⊢
  cases hr : x.run.run s with
  | mk r s' =>
    rw [hr] at h
    cases r with
    | ok a =>
      rw [run_bind_of_ok hr]
      exact h
    | error e =>
      rw [run_bind_of_error hr]
      exact h

theorem ends_pure {a : α} {P : Except WireError α → σ → Prop} (h : P (.ok a) s) :
    (pure a : Action (StateM σ) α).Ends s P := h

theorem ends_liftM {y : StateM σ α} {P : Except WireError α → σ → Prop}
    (h : P (.ok (y.run s).1) (y.run s).2) : (liftM y : Action (StateM σ) α).Ends s P := h

theorem ends_ofFault {y : Except Fault α} {P : Except WireError α → σ → Prop}
    (h : P (y.mapError Fault.toError) s) : (ofFault y : Action (StateM σ) α).Ends s P := h

theorem ends_ofHost {y : StateM σ (Except FailureKind α)} {P : Except WireError α → σ → Prop}
    (hok : ∀ a s', y.run s = (.ok a, s') → P (.ok a) s')
    (herror : ∀ k s', y.run s = (.error k, s') → P (.error (.failure (.plain k))) s') :
    (ofHost y).Ends s P := by
  have hrun : (ofHost y).run.run s =
      ((y.run s).1.mapError fun k => .failure (.plain k), (y.run s).2) := rfl
  unfold Ends
  rw [hrun]
  cases hy : y.run s with
  | mk r s' =>
    cases r with
    | ok a => exact hok a s' hy
    | error k => exact herror k s' hy

end Action

/-! ### Systems that fail -/

namespace Host

variable {σ : Type} (host : Host (StateM σ))

/-- The ways in which a host fails to make folders or to write files. -/
inductive Fails : FailureKind → Prop
  | folders {path : FilePath} {s s' : σ} {k : FailureKind}
      (h : (host.makeFolders path).run s = (.error k, s')) : Fails k
  | text {path : FilePath} {text : String} {s s' : σ} {k : FailureKind}
      (h : (host.writeText path text).run s = (.error k, s')) : Fails k

/-- Whether a host fails to make folders and to write files only as file systems do. -/
def FailsAsSystem : Prop := ∀ k, host.Fails k → k.isSystem = true

end Host

namespace Machine

variable {f : FileTree → Except FailureKind FileTree} {s s' : Machine}

theorem exists_of_change (h : (change f).run s = (.ok (), s')) :
    ∃ t, f s.tree = .ok t ∧ s' = { s with tree := t } := by
  have hrun : (change f).run s = change f s := rfl
  rw [hrun] at h
  unfold change at h
  split at h
  · rename_i t ht
    cases h
    exact ⟨t, ht, rfl⟩
  · cases h

theorem error_of_change {k : FailureKind} (h : (change f).run s = (.error k, s')) :
    f s.tree = .error k ∧ s' = s := by
  have hrun : (change f).run s = change f s := rfl
  rw [hrun] at h
  unfold change at h
  split at h
  · cases h
  · rename_i hf
    cases h
    exact ⟨hf, rfl⟩

theorem failsAsSystem_host (yaml : YamlReader) : (host yaml).FailsAsSystem := by
  intro k h
  cases h with
  | @folders path s _ _ h =>
    have h : s.tree.makeFolders path = .error k :=
      (error_of_change (f := fun t => t.makeFolders path) h).1
    unfold FileTree.makeFolders at h
    grind [FailureKind.isSystem]
  | @text path text s _ _ h =>
    have h : s.tree.write path text = .error k :=
      (error_of_change (f := fun t => t.write path text) h).1
    unfold FileTree.write at h
    grind [FailureKind.isSystem]

end Machine

end ServiceWire
