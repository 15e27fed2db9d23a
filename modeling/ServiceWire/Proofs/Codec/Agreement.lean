import ServiceWire.Proofs.Codec.Success
import Mathlib.Data.List.Forall2

/-!
# Readings that agree

Two readings agree if both fail, whatever the faults, or both succeed with results that are related.
Readings that are made of parts in the same way agree if the parts do; the notes that are made on
the way do not matter.
-/

namespace ServiceWire

/-- Two outcomes agree: both are faults, or both are results, which are related. -/
inductive Agree {ε ε' α β : Type} (R : α → β → Prop) : Except ε α → Except ε' β → Prop
  | ok {a : α} {b : β} (h : R a b) : Agree R (.ok a) (.ok b)
  | error (e : ε) (e' : ε') : Agree R (.error e) (.error e')

namespace Agree

variable {ε ε' ε'' α β γ δ : Type} {R : α → β → Prop} {S : γ → δ → Prop}

theorem self {R : α → α → Prop} {x : Except ε α} (hR : ∀ a, x = .ok a → R a a) :
    Agree R x x := by
  cases x with
  | error e => exact .error e e
  | ok a => exact .ok (hR a rfl)

theorem refl {R : α → α → Prop} (hR : ∀ a, R a a) (x : Except ε α) : Agree R x x :=
  self fun a _ => hR a

theorem mono {R' : α → β → Prop} (hR : ∀ a b, R a b → R' a b) {x : Except ε α} {y : Except ε' β}
    (h : Agree R x y) : Agree R' x y := by
  cases h with
  | ok hab => exact .ok (hR _ _ hab)
  | error e e' => exact .error e e'

theorem of_eq {R : α → α → Prop} {x y : Except ε α} (h : x = y) (hR : ∀ a, y = .ok a → R a a) :
    Agree R x y := by
  rw [h]
  exact self hR

/-- What is known of the one result may be used of both. -/
theorem and_left {P : α → Prop} {x : Except ε α} {y : Except ε' β} (h : Agree R x y)
    (hP : ∀ a, x = .ok a → P a) : Agree (fun a b => R a b ∧ P a) x y := by
  cases h with
  | ok hab => exact .ok ⟨hab, hP _ rfl⟩
  | error e e' => exact .error e e'

theorem trans {R : α → α → Prop} (hR : ∀ a b c, R a b → R b c → R a c) {x : Except ε α}
    {y : Except ε' α} {z : Except ε'' α} (h : Agree R x y) (h' : Agree R y z) : Agree R x z := by
  cases h with
  | ok hab =>
    cases h' with
    | ok hbc => exact .ok (hR _ _ _ hab hbc)
  | error e e' =>
    cases h' with
    | error _ e'' => exact .error e e''

theorem bind {x : Except ε α} {y : Except ε' β} {f : α → Except ε γ} {f' : β → Except ε' δ}
    (h : Agree R x y) (hf : ∀ a b, R a b → Agree S (f a) (f' b)) :
    Agree S (x >>= f) (y >>= f') := by
  cases h with
  | ok hab => exact hf _ _ hab
  | error e e' => exact .error e e'

theorem map {x : Except ε α} {y : Except ε' β} {f : α → γ} {g : β → δ} (h : Agree R x y)
    (hf : ∀ a b, R a b → S (f a) (g b)) : Agree S (x.map f) (y.map g) := by
  cases h with
  | ok hab => exact .ok (hf _ _ hab)
  | error e e' => exact .error e e'

/-- Conversions that agree item by item agree on lists. -/
theorem mapM {P : γ → δ → Prop} {f : γ → Except ε α} {f' : δ → Except ε' β} {items : List γ}
    {others : List δ} (h : List.Forall₂ P items others)
    (hf : ∀ a b, P a b → Agree R (f a) (f' b)) :
    Agree (List.Forall₂ R) (items.mapM f) (others.mapM f') := by
  induction h with
  | nil => exact .ok .nil
  | cons hab _ ih =>
    rw [List.mapM_cons, List.mapM_cons]
    exact (hf _ _ hab).bind fun b b' hb => ih.bind fun bs bs' hbs => .ok (.cons hb hbs)

/-- Walks that agree step by step agree in the end. -/
theorem foldlM {f : α → γ → Except ε α} {f' : β → γ → Except ε' β} {items : List γ}
    (hf : ∀ c ∈ items, ∀ a b, R a b → Agree R (f a c) (f' b c)) {a : α} {b : β} (h : R a b) :
    Agree R (items.foldlM f a) (items.foldlM f' b) := by
  induction items generalizing a b with
  | nil => exact .ok h
  | cons c rest ih =>
    rw [List.foldlM_cons, List.foldlM_cons]
    exact (hf c (List.mem_cons_self ..) a b h).bind fun a' b' h' =>
      ih (fun c' hc' => hf c' (List.mem_cons_of_mem _ hc')) h'

/-- The order in which a list is converted decides about the order of the results only. -/
theorem mapM_perm {f : α → Except ε β} {items others : List α} (h : items.Perm others) :
    Agree List.Perm (items.mapM f) (others.mapM f) := by
  induction h with
  | nil => exact .ok .nil
  | cons a _ ih =>
    rw [List.mapM_cons, List.mapM_cons]
    refine (refl (fun _ => rfl) (f a)).bind (R := Eq) fun b b' hb => ?_
    exact ih.bind fun bs bs' hbs => .ok (hb ▸ hbs.cons b)
  | swap a a' rest =>
    simp only [List.mapM_cons, bind_assoc, pure_bind]
    cases f a with
    | error e =>
      cases f a' with
      | error e' => exact .error e' e
      | ok b' => exact .error e e
    | ok b =>
      cases f a' with
      | error e' => exact .error e' e'
      | ok b' =>
        exact (refl (fun _ => rfl) (rest.mapM f)).bind (R := Eq) fun bs bs' hbs =>
          .ok (hbs ▸ List.Perm.swap b b' bs)
  | trans _ _ ih ih' => exact Agree.trans (R := List.Perm) (fun _ _ _ h h' => h.trans h') ih ih'

end Agree

/-! ### Outcomes of readings -/

namespace Reading

variable {α β : Type}

theorem outcome_bind (x : Reading α) (f : α → Reading β) :
    (x >>= f).outcome = x.outcome >>= fun a => (f a).outcome := by
  obtain ⟨outcome, notes⟩ := x
  cases outcome with
  | error e => rfl
  | ok a => rfl

theorem outcome_ofOutcome (x : Except Fault α) : (ofOutcome x).outcome = x := rfl

theorem outcome_ofConversion (x : Except Failure α) :
    (ofConversion x).outcome = x.mapError .failure := rfl

theorem outcome_mapM (f : α → Reading β) (items : List α) :
    (items.mapM f).outcome = items.mapM fun a => (f a).outcome := by
  induction items with
  | nil => rfl
  | cons a rest ih => simp only [List.mapM_cons, outcome_bind, ih, outcome_pure]; rfl

theorem outcome_foldlM (f : β → α → Reading β) (items : List α) (acc : β) :
    (items.foldlM f acc).outcome = items.foldlM (fun b a => (f b a).outcome) acc := by
  induction items generalizing acc with
  | nil => rfl
  | cons a rest ih => simp only [List.foldlM_cons, outcome_bind, ih]

end Reading

end ServiceWire
