/-!
# Ordered mappings

A mapping whose order is part of its meaning is a list of pairs. A later value for a key takes the
place of the earlier one; a new key goes to the end.
-/

namespace ServiceWire.Entries

variable {κ ν : Type} [BEq κ]

/-- The mapping with a value put under a key: in the key's place, or at the end. -/
def put (key : κ) (value : ν) : List (κ × ν) → List (κ × ν)
  | [] => [(key, value)]
  | (k, v) :: rest => if k == key then (k, value) :: rest else (k, v) :: put key value rest

/-- The mapping with a value put under a key that it does not have yet. -/
def putNew (key : κ) (value : ν) (entries : List (κ × ν)) : List (κ × ν) :=
  match entries.lookup key with
  | some _ => entries
  | none => entries ++ [(key, value)]

/-- The mapping with all pairs of another put into it, in order. -/
def putAll (entries more : List (κ × ν)) : List (κ × ν) :=
  more.foldl (fun acc p => put p.1 p.2 acc) entries

/-- The mapping that a sequence of pairs describes. -/
def ofPairs (pairs : List (κ × ν)) : List (κ × ν) := putAll [] pairs

/-- The keys, in order. -/
def keys (entries : List (κ × ν)) : List κ := entries.map Prod.fst

/-- Whether a key has a value. -/
def has (entries : List (κ × ν)) (key : κ) : Bool := (entries.lookup key).isSome

theorem lookup_put [LawfulBEq κ] (key k : κ) (value : ν) (entries : List (κ × ν)) :
    (put key value entries).lookup k = if k == key then some value else entries.lookup k := by
  have miss : ∀ a : κ, ¬k = a → (k == a) = false := fun a h => by simpa using h
  induction entries with
  | nil => by_cases h : k = key <;> simp [put, List.lookup_cons, h, miss]
  | cons p rest ih =>
    obtain ⟨a, b⟩ := p
    by_cases ha : a = key
    · subst ha
      by_cases h : k = a <;> simp [put, List.lookup_cons, h, miss]
    · by_cases h : k = a
      · subst h
        simp [put, ha]
      · simp [put, List.lookup_cons, ha, h, ih, miss]

end ServiceWire.Entries
