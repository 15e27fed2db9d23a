import ServiceWire.Value

/-!
# Entries of mappings with keys of any type

Which values are the same key, the mapping that a sequence of pairs describes, and the pairs that a
value can be read as. Two values are compared as the keys of a mapping are: texts by their
characters, numbers by what they count, whatever their type.
-/

namespace ServiceWire.Value

mutual

/-- Whether two values are the same as keys of a mapping: numbers may differ in type, byte strings
in form. -/
def sameKey : Value → Value → Bool
  | null, null => true
  | str s, str t => s == t
  | bytes _ a, bytes _ b => a == b
  | datetime a, datetime b => a.sameMoment b
  | tuple a, tuple b => sameKeys a b
  | v, w =>
    match numeric? v, numeric? w with
    | some x, some y => x.same y
    | _, _ => false

/-- Whether two sequences of values are the same as keys. -/
def sameKeys : List Value → List Value → Bool
  | [], [] => true
  | a :: as, b :: bs => sameKey a b && sameKeys as bs
  | _, _ => false

end

instance : BEq Value := ⟨sameKey⟩

theorem str_beq_str (s t : String) : (Value.str s == Value.str t) = (s == t) := by
  simp only [BEq.beq, sameKey]

/-- Only a text is the same key as a text. -/
theorem beq_str_iff (v : Value) (s : String) : (v == .str s) = true ↔ v = .str s := by
  cases v with
  | str t => rw [str_beq_str, beq_iff_eq, str.injEq]
  | _ => simp [BEq.beq, sameKey, numeric?]

/-- A text is the same key as itself only. -/
theorem str_beq_iff (s : String) (v : Value) : (.str s == v) = true ↔ v = .str s := by
  cases v with
  | str t => rw [str_beq_str, beq_iff_eq, str.injEq, eq_comm]
  | _ => simp [BEq.beq, sameKey, numeric?]

/-- A value as a key, if it can be one. -/
def asKey (v : Value) : Except Failure Value :=
  if v.isKey then .ok v else .error (.plain .type)

theorem asKey_str (s : String) : asKey (.str s) = .ok (.str s) := by
  simp [asKey, isKey]

/-- The mapping that a sequence of pairs describes: of two pairs with the same key the value of the
later one counts, in the place of the earlier one. -/
def ofEntries (pairs : List (Value × Value)) : Value := .dict (Entries.ofPairs pairs)

/-- The two parts of an item that stands for an entry, the first of which must be a key. -/
def pairOf (v : Value) : Except Failure (Value × Value) :=
  match v.items? with
  | none => .error (.plain .type)
  | some [a, b] => a.asKey.map fun key => (key, b)
  | some _ => .error (.plain .value)

/-- The entries of a mapping, or of a sequence of pairs. -/
def entriesOf : Value → Except Failure (List (Value × Value))
  | dict entries => .ok entries
  | v =>
    match v.items? with
    | none => .error (.plain .type)
    | some items => items.mapM pairOf

end ServiceWire.Value
