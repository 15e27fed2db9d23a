import ServiceWire.Codec.Reading
import ServiceWire.Codec.Table
import Mathlib.Data.List.Forall2

/-!
# Conversions that succeed

A conversion that succeeds for each item of a list succeeds for the list, a reading goes on with
the value of a conversion that succeeded, and the codecs that handle all kinds refuse none.
-/

namespace ServiceWire

/-- What follows a conversion that succeeded goes on with its value. -/
theorem ok_bind {ε α β : Type} (a : α) (f : α → Except ε β) : (Except.ok a >>= f) = f a := rfl

/-- What succeeded in two steps did so in each. -/
theorem exists_of_bind {ε α β : Type} {x : Except ε α} {f : α → Except ε β} {b : β}
    (h : (x >>= f) = .ok b) : ∃ a, x = .ok a ∧ f a = .ok b := by
  cases x with
  | error e => cases h
  | ok a => exact ⟨a, rfl, h⟩

theorem exists_of_map {ε α β : Type} {x : Except ε α} {f : α → β} {b : β}
    (h : x.map f = .ok b) : ∃ a, x = .ok a ∧ f a = b := by
  cases x with
  | error e => cases h
  | ok a => exact ⟨a, rfl, Except.ok.inj h⟩

theorem mapError_error {ε ε' α : Type} (f : ε → ε') (e : ε) :
    (Except.error e : Except ε α).mapError f = .error (f e) := rfl

theorem exists_of_mapError {ε ε' α : Type} {x : Except ε α} {f : ε → ε'} {a : α}
    (h : x.mapError f = .ok a) : x = .ok a := by
  cases x with
  | error e => cases h
  | ok a => exact congrArg _ (Except.ok.inj h)

/-- What succeeds for each item without any effect does so for the whole list. -/
theorem mapM_eq_pure {μ : Type → Type} [Monad μ] [LawfulMonad μ] {α β : Type} {f : α → μ β}
    {h : α → β} {items : List α} (hf : ∀ a ∈ items, f a = pure (h a)) :
    items.mapM f = pure (items.map h) := by
  induction items with
  | nil => rfl
  | cons a rest ih =>
    rw [List.mapM_cons, hf a (List.mem_cons_self ..),
      ih fun b hb => hf b (List.mem_cons_of_mem _ hb)]
    simp only [pure_bind, List.map_cons]

/-- What succeeds for a list has a result for each item, in order. -/
theorem forall₂_of_mapM {ε α β : Type} {f : α → Except ε β} {items : List α} {results : List β}
    (h : items.mapM f = .ok results) : List.Forall₂ (fun a b => f a = .ok b) items results := by
  induction items generalizing results with
  | nil =>
    cases h
    exact .nil
  | cons a rest ih =>
    rw [List.mapM_cons] at h
    obtain ⟨b, hb, h⟩ := exists_of_bind h
    obtain ⟨bs, hbs, h⟩ := exists_of_bind h
    cases h
    exact .cons hb (ih hbs)

/-- Items with results, in order, make a list that succeeds. -/
theorem mapM_of_forall₂ {ε α β : Type} {f : α → Except ε β} {items : List α} {results : List β}
    (h : List.Forall₂ (fun a b => f a = .ok b) items results) : items.mapM f = .ok results := by
  induction h with
  | nil => rfl
  | cons hab _ ih =>
    rw [List.mapM_cons, hab, ok_bind, ih, ok_bind]
    rfl

/-- What each item has in common with its results, a list that succeeds has with its results. -/
theorem map_eq_map_of_mapM {ε α β γ : Type} {f : α → Except ε β} {h : α → γ} {k : β → γ}
    {items : List α} {results : List β} (hf : ∀ a b, f a = .ok b → h a = k b)
    (hm : items.mapM f = .ok results) : items.map h = results.map k := by
  have hall : List.Forall₂ (fun x y => x = y) (items.map h) (results.map k) := by
    rw [List.forall₂_map_left_iff, List.forall₂_map_right_iff]
    exact (forall₂_of_mapM hm).imp hf
  rwa [List.forall₂_eq_eq_eq] at hall

/-- Each item of a list that is related to another, item by item, is related to one of the other. -/
theorem exists_of_forall₂_left {α β : Type} {R : α → β → Prop} {items : List α} {others : List β}
    (h : List.Forall₂ R items others) {a : α} (ha : a ∈ items) : ∃ b ∈ others, R a b := by
  induction h with
  | nil => cases ha
  | cons hab _ ih =>
    rcases List.mem_cons.mp ha with rfl | ha
    · exact ⟨_, List.mem_cons_self .., hab⟩
    · obtain ⟨b, hb, hR⟩ := ih ha
      exact ⟨b, List.mem_cons_of_mem _ hb, hR⟩

/-- Each result of a conversion of a list is the result of one of its items. -/
theorem exists_of_mem_mapM {ε α β : Type} {f : α → Except ε β} {items : List α} {results : List β}
    (h : items.mapM f = .ok results) {b : β} (hb : b ∈ results) : ∃ a ∈ items, f a = .ok b :=
  exists_of_forall₂_left (forall₂_of_mapM h).flip hb

/-- What succeeds for a list succeeds for each of its items. -/
theorem exists_of_mapM {ε α β : Type} {f : α → Except ε β} {items : List α} {results : List β}
    (h : items.mapM f = .ok results) {a : α} (ha : a ∈ items) : ∃ b, f a = .ok b := by
  obtain ⟨b, -, hb⟩ := exists_of_forall₂_left (forall₂_of_mapM h) ha
  exact ⟨b, hb⟩

/-- A walk that succeeds comes by each item, and the step there succeeds. -/
theorem exists_of_foldlM {ε α β : Type} {f : β → α → Except ε β} {items : List α} {acc result : β}
    (h : items.foldlM f acc = .ok result) {a : α} (ha : a ∈ items) :
    ∃ acc' b, f acc' a = .ok b := by
  induction items generalizing acc with
  | nil => cases ha
  | cons first rest ih =>
    rw [List.foldlM_cons] at h
    obtain ⟨next, hfirst, h⟩ := exists_of_bind h
    rcases List.mem_cons.mp ha with rfl | ha
    · exact ⟨acc, next, hfirst⟩
    · exact ih h ha

/-- What succeeds for each item succeeds for the list. -/
theorem exists_mapM {ε α β : Type} {f : α → Except ε β} {items : List α}
    (h : ∀ a ∈ items, ∃ b, f a = .ok b) : ∃ results, items.mapM f = .ok results := by
  induction items with
  | nil => exact ⟨[], rfl⟩
  | cons a rest ih =>
    obtain ⟨b, hb⟩ := h a (List.mem_cons_self ..)
    obtain ⟨bs, hbs⟩ := ih fun a' ha' => h a' (List.mem_cons_of_mem _ ha')
    refine ⟨b :: bs, ?_⟩
    rw [List.mapM_cons, hb, ok_bind, hbs, ok_bind]
    rfl

/-- A walk succeeds if each step does, whatever the steps before it made. -/
theorem exists_foldlM {ε α β : Type} {f : β → α → Except ε β} {items : List α}
    (h : ∀ a ∈ items, ∀ acc, ∃ b, f acc a = .ok b) (acc : β) :
    ∃ b, items.foldlM f acc = .ok b := by
  induction items generalizing acc with
  | nil => exact ⟨acc, rfl⟩
  | cons a rest ih =>
    obtain ⟨b, hb⟩ := h a (List.mem_cons_self ..) acc
    obtain ⟨b', hb'⟩ := ih (fun a' ha' => h a' (List.mem_cons_of_mem _ ha')) b
    exact ⟨b', by rw [List.foldlM_cons, hb, ok_bind, hb']⟩

/-- Walks whose steps are the same are the same. -/
theorem foldlM_congr {ε α β : Type} {f f' : β → α → Except ε β} {items : List α}
    (h : ∀ a ∈ items, ∀ acc, f acc a = f' acc a) (acc : β) :
    items.foldlM f acc = items.foldlM f' acc := by
  induction items generalizing acc with
  | nil => rfl
  | cons a rest ih =>
    rw [List.foldlM_cons, List.foldlM_cons, h a (List.mem_cons_self ..) acc]
    exact congrArg _ (funext fun b => ih (fun a' ha' => h a' (List.mem_cons_of_mem _ ha')) b)

/-- A list of results that all pass is passed as a whole. -/
theorem filter_map_eq_map {α β : Type} {f : α → β} {p : β → Bool} {items : List α}
    (h : ∀ a ∈ items, p (f a) = true) : (items.map f).filter p = items.map f := by
  rw [List.filter_eq_self]
  intro b hb
  obtain ⟨a, ha, rfl⟩ := List.mem_map.mp hb
  exact h a ha

namespace Reading

variable {α β : Type}

@[simp]
theorem ofOutcome_ok (a : α) : ofOutcome (.ok a) = pure a := rfl

@[simp]
theorem ofConversion_ok (a : α) : ofConversion (.ok a) = pure a := rfl

@[simp]
theorem outcome_pure (a : α) : (pure a : Reading α).outcome = .ok a := rfl

theorem note_nil : note [] = pure () := rfl

/-- What follows a reading that succeeded goes on with its value. -/
theorem outcome_bind_of_ok {x : Reading α} {a : α} (h : x.outcome = .ok a) (f : α → Reading β) :
    (x >>= f).outcome = (f a).outcome := by
  obtain ⟨outcome, notes⟩ := x
  obtain rfl : outcome = .ok a := h
  rfl

/-- What succeeded in the end has a value that it went on with. -/
theorem exists_of_outcome_bind {x : Reading α} {f : α → β} {b : β}
    (h : (do let a ← x; pure (f a) : Reading β).outcome = .ok b) :
    ∃ a, f a = b ∧ x.outcome = .ok a := by
  obtain ⟨outcome, notes⟩ := x
  cases outcome with
  | error e => cases h
  | ok a => exact ⟨a, Except.ok.inj h, rfl⟩

end Reading

namespace Codec

variable {n : Nat} (notes : Bool) (ns : Value)

@[simp]
theorem needWriter_complete (format : BodyFormat) (s : Shape n) :
    (complete format notes ns).needWriter s = .ok () := by
  rw [needWriter, if_pos]
  exact List.contains_iff_mem.mpr (ShapeKind.mem_all s.kind)

theorem needReader_complete {format : BodyFormat} (hf : format ≠ .query) (s : Shape n) :
    (complete format notes ns).needReader s = .ok () := by
  rw [needReader, if_pos]
  rw [complete, if_neg hf]
  exact List.contains_iff_mem.mpr (ShapeKind.mem_all s.kind)

/-- Every value of every shape can be read with a codec that handles all kinds. -/
theorem checkReadable_complete {format : BodyFormat} (hf : format ≠ .query) (g : Graph)
    (r : g.Ref) : (complete format notes ns).checkReadable g r = .ok () := by
  have hnone : (g.reachable r).find? (fun q =>
      !(complete format notes ns).readers.contains (g.shape q).kind) = none := by
    rw [List.find?_eq_none]
    intro q _
    rw [complete, if_neg hf, List.contains_iff_mem.mpr (ShapeKind.mem_all _)]
    exact Bool.false_ne_true
  rw [checkReadable, check, hnone]

end Codec

end ServiceWire
