import ServiceWire.Codec.Reading
import ServiceWire.Codec.Table

/-!
# Conversions without defects

A conversion fails because of the value or because of the configuration. Only looking up a kind in a
table finds a defect of the configuration; whatever is put together from conversions that find none
finds none. What checks a configuration is the other way round: where everything has its type, all
that it reports is defects.
-/

namespace ServiceWire

/-- No defect of the configuration comes of a conversion. -/
def NoDefect {α : Type} (x : Except Fault α) : Prop := ∀ d, x ≠ .error (.defect d)

namespace NoDefect

variable {α β : Type}

theorem ok (a : α) : NoDefect (.ok a) := fun _ h => by cases h

theorem pure (a : α) : NoDefect (Pure.pure a) := ok a

theorem failure (f : Failure) : NoDefect (.error (.failure f) : Except Fault α) :=
  fun _ h => by cases h

/-- A fault that is no defect is a failure. -/
theorem exists_failure {x : Except Fault α} (h : NoDefect x) {e : Fault} (he : x = .error e) :
    ∃ f, e = .failure f := by
  cases e with
  | failure f => exact ⟨f, rfl⟩
  | defect d => exact absurd he (h d)

/-- A failed conversion of a single value is no defect. -/
theorem mapError (x : Except Failure α) : NoDefect (x.mapError .failure) := by
  cases x with
  | error f => exact failure f
  | ok a => exact ok a

theorem bind_of_ok {x : Except Fault α} {f : α → Except Fault β} (hx : NoDefect x)
    (hf : ∀ a, x = .ok a → NoDefect (f a)) : NoDefect (x >>= f) := by
  cases x with
  | error e =>
    obtain ⟨f, rfl⟩ := hx.exists_failure rfl
    exact failure f
  | ok a => exact hf a rfl

theorem bind {x : Except Fault α} {f : α → Except Fault β} (hx : NoDefect x)
    (hf : ∀ a, NoDefect (f a)) : NoDefect (x >>= f) :=
  hx.bind_of_ok fun a _ => hf a

theorem map {x : Except Fault α} (hx : NoDefect x) (f : α → β) : NoDefect (x.map f) := by
  cases x with
  | error e =>
    obtain ⟨f, rfl⟩ := hx.exists_failure rfl
    exact failure f
  | ok a => exact ok (f a)

theorem mapM {f : α → Except Fault β} {items : List α} (h : ∀ a ∈ items, NoDefect (f a)) :
    NoDefect (items.mapM f) := by
  induction items with
  | nil => exact ok []
  | cons a rest ih =>
    rw [List.mapM_cons]
    refine bind (h a (List.mem_cons_self ..)) fun b => ?_
    exact bind (ih fun a' ha' => h a' (List.mem_cons_of_mem _ ha')) fun bs => pure (b :: bs)

theorem foldlM {f : β → α → Except Fault β} {items : List α}
    (h : ∀ a ∈ items, ∀ acc, NoDefect (f acc a)) (acc : β) : NoDefect (items.foldlM f acc) := by
  induction items generalizing acc with
  | nil => exact ok acc
  | cons a rest ih =>
    rw [List.foldlM_cons]
    exact bind (h a (List.mem_cons_self ..) acc) fun b =>
      ih (fun a' ha' => h a' (List.mem_cons_of_mem _ ha')) b

end NoDefect

/-! ### Checks of a configuration -/

/-- Nothing but a defect of the configuration is reported. -/
def NoFailure {α : Type} (x : Except Fault α) : Prop := ∀ f, x ≠ .error (.failure f)

namespace NoFailure

variable {α β : Type}

theorem ok (a : α) : NoFailure (.ok a) := fun _ h => by cases h

theorem defect (d : Defect) : NoFailure (.error (.defect d) : Except Fault α) :=
  fun _ h => by cases h

/-- A conversion that succeeds reports no failure. -/
theorem of_exists {x : Except Failure α} (h : ∃ a, x = .ok a) :
    NoFailure (x.mapError .failure) := by
  obtain ⟨a, rfl⟩ := h
  exact ok a

/-- A fault that is no failure is a defect. -/
theorem exists_defect {x : Except Fault α} (h : NoFailure x) {e : Fault} (he : x = .error e) :
    ∃ d, e = .defect d := by
  cases e with
  | failure f => exact absurd he (h f)
  | defect d => exact ⟨d, rfl⟩

theorem exists_ok_or_defect {x : Except Fault α} (h : NoFailure x) :
    (∃ a, x = .ok a) ∨ ∃ d, x = .error (.defect d) := by
  cases x with
  | ok a => exact .inl ⟨a, rfl⟩
  | error e =>
    obtain ⟨d, rfl⟩ := h.exists_defect rfl
    exact .inr ⟨d, rfl⟩

theorem mapError (x : Except Defect α) : NoFailure (x.mapError .defect) := by
  cases x with
  | error d => exact defect d
  | ok a => exact ok a

theorem bind_of_ok {x : Except Fault α} {f : α → Except Fault β} (hx : NoFailure x)
    (hf : ∀ a, x = .ok a → NoFailure (f a)) : NoFailure (x >>= f) := by
  cases x with
  | error e =>
    obtain ⟨d, rfl⟩ := hx.exists_defect rfl
    exact defect d
  | ok a => exact hf a rfl

theorem bind {x : Except Fault α} {f : α → Except Fault β} (hx : NoFailure x)
    (hf : ∀ a, NoFailure (f a)) : NoFailure (x >>= f) :=
  hx.bind_of_ok fun a _ => hf a

theorem map {x : Except Fault α} (hx : NoFailure x) (f : α → β) : NoFailure (x.map f) := by
  cases x with
  | error e =>
    obtain ⟨d, rfl⟩ := hx.exists_defect rfl
    exact defect d
  | ok a => exact ok (f a)

theorem mapM {f : α → Except Fault β} {items : List α} (h : ∀ a ∈ items, NoFailure (f a)) :
    NoFailure (items.mapM f) := by
  induction items with
  | nil => exact ok []
  | cons a rest ih =>
    rw [List.mapM_cons]
    refine bind (h a (List.mem_cons_self ..)) fun b => ?_
    exact bind (ih fun a' ha' => h a' (List.mem_cons_of_mem _ ha')) fun bs => ok (b :: bs)

theorem foldlM {f : β → α → Except Fault β} {items : List α}
    (h : ∀ a ∈ items, ∀ acc, NoFailure (f acc a)) (acc : β) : NoFailure (items.foldlM f acc) := by
  induction items generalizing acc with
  | nil => exact ok acc
  | cons a rest ih =>
    rw [List.foldlM_cons]
    exact bind (h a (List.mem_cons_self ..) acc) fun b =>
      ih (fun a' ha' => h a' (List.mem_cons_of_mem _ ha')) b

end NoFailure

/-! ### Readings -/

namespace Reading

variable {α β : Type}

/-- No defect of the configuration comes of a reading. -/
def NoDefect (x : Reading α) : Prop := ServiceWire.NoDefect x.outcome

namespace NoDefect

theorem pure (a : α) : NoDefect (Pure.pure a) := .ok a

theorem failure (f : Failure) : NoDefect (fail (.failure f) : Reading α) :=
  ServiceWire.NoDefect.failure f

theorem ofConversion (x : Except Failure α) : NoDefect (ofConversion x) := .mapError x

theorem ofOutcome {x : Except Fault α} (h : ServiceWire.NoDefect x) : NoDefect (ofOutcome x) := h

theorem note (notes : List String) : NoDefect (note notes) := .ok ()

theorem bind {x : Reading α} {f : α → Reading β} (hx : NoDefect x) (hf : ∀ a, NoDefect (f a)) :
    NoDefect (x >>= f) := by
  obtain ⟨outcome, notes⟩ := x
  cases outcome with
  | error e =>
    obtain ⟨f, rfl⟩ := hx.exists_failure rfl
    exact ServiceWire.NoDefect.failure f
  | ok a => exact hf a

theorem mapM {f : α → Reading β} {items : List α} (h : ∀ a ∈ items, NoDefect (f a)) :
    NoDefect (items.mapM f) := by
  induction items with
  | nil => exact pure []
  | cons a rest ih =>
    rw [List.mapM_cons]
    refine bind (h a (List.mem_cons_self ..)) fun b => ?_
    exact bind (ih fun a' ha' => h a' (List.mem_cons_of_mem _ ha')) fun bs => pure (b :: bs)

theorem foldlM {f : β → α → Reading β} {items : List α}
    (h : ∀ a ∈ items, ∀ acc, NoDefect (f acc a)) (acc : β) : NoDefect (items.foldlM f acc) := by
  induction items generalizing acc with
  | nil => exact pure acc
  | cons a rest ih =>
    rw [List.foldlM_cons]
    exact bind (h a (List.mem_cons_self ..) acc) fun b =>
      ih (fun a' ha' => h a' (List.mem_cons_of_mem _ ha')) b

end NoDefect

end Reading

/-! ### Tables -/

namespace Codec

variable {n : Nat}

theorem noDefect_needWriter {c : Codec} {s : Shape n} (h : s.kind ∈ c.writers) :
    NoDefect (c.needWriter s) := by
  rw [needWriter, if_pos (List.contains_iff_mem.mpr h)]
  exact .ok ()

theorem noDefect_needReader {c : Codec} {s : Shape n} (h : s.kind ∈ c.readers) :
    NoDefect (c.needReader s) := by
  rw [needReader, if_pos (List.contains_iff_mem.mpr h)]
  exact .ok ()

end Codec

end ServiceWire
