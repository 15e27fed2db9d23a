import ServiceWire.Fault

/-!
# Readings

What comes of reading a document: a value or a fault, and the notes that were made on the way.
Notes made before a fault are kept.
-/

namespace ServiceWire

/-- The outcome of reading, and the notes made on the way. -/
structure Reading (α : Type) where
  outcome : Except Fault α
  notes : List String := []

namespace Reading

variable {α β : Type}

/-- A reading that goes on with the value of another. -/
def andThen (x : Reading α) (f : α → Reading β) : Reading β :=
  match x.outcome with
  | .ok a => ⟨(f a).outcome, x.notes ++ (f a).notes⟩
  | .error e => ⟨.error e, x.notes⟩

instance : Monad Reading where
  pure a := ⟨.ok a, []⟩
  bind := andThen

instance : LawfulMonad Reading := by
  refine LawfulMonad.mk' Reading ?_ ?_ ?_
  · rintro α ⟨_ | _, _⟩ <;> simp [Functor.map, andThen]
  · intro α β a f
    simp [bind, pure, andThen]
  · rintro α β γ ⟨_ | a, notes⟩ f g
    · simp [bind, andThen]
    · simp only [bind, andThen]
      split <;> simp_all

/-- A reading that fails. -/
def fail (e : Fault) : Reading α := ⟨.error e, []⟩

/-- The outcome of a conversion as a reading. -/
def ofOutcome (x : Except Fault α) : Reading α := ⟨x, []⟩

/-- The outcome of a conversion of a single value as a reading. -/
def ofConversion (x : Except Failure α) : Reading α := ⟨x.mapError .failure, []⟩

/-- A reading that makes notes. -/
def note (notes : List String) : Reading Unit := ⟨.ok (), notes⟩

end Reading

end ServiceWire
