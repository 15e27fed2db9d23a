import ServiceWire.Value

/-!
# Going through a value

A writer goes through a value by the parts it can be taken apart into: the entries of a mapping or
the attributes of an object, and the items of a sequence. `Value.fold` does this for any kind of
result: the result for a value is made from the value and from the results for its parts, and
`fold_eq` says so in one equation.
-/

namespace ServiceWire

/-- A value with a result for each of its parts. -/
structure View (ρ : Type) where
  whole : Value
  /-- The entries of a mapping or the attributes of an object: key, value, result. -/
  named : List (Value × Value × ρ)
  /-- The items of a sequence, each with its result; a text or a mapping is no sequence. -/
  items? : Option (List (Value × ρ))

namespace Value

/-- The entries of a mapping, or the attributes of an object under their names. -/
def named : Value → List (Value × Value)
  | dict entries => entries
  | object attributes => attributes.map fun p => (.str p.1, p.2)
  | typed _ members => members.map fun p => (.str p.1, p.2)
  | _ => []

/-- The items of a sequence. A byte string that may change is a sequence of numbers and a stream
one of lines; a text, a constant byte string or a mapping is none. -/
def sequence? : Value → Option (List Value)
  | list items | tuple items | iter items => some items
  | bytes .mutable data | bytes .view data => some (data.map fun b => .int b.toNat)
  | stream ahead => some ((linesFrom [] ahead).map .ofBytes)
  | _ => none

/-- Whether a value is a mapping. -/
def isMapping : Value → Bool
  | dict _ => true
  | _ => false

/-- A value with the results that a function gives for its parts. -/
def view {ρ : Type} (r : Value → ρ) (v : Value) : View ρ where
  whole := v
  named := v.named.map fun p => (p.1, p.2, r p.2)
  items? := v.sequence?.map fun items => items.map fun w => (w, r w)

/-- A value without parts. -/
def alone {ρ : Type} (v : Value) : View ρ := ⟨v, [], none⟩

mutual

/-- The result for a value, made from the results for its parts. -/
def fold {ρ : Type} (f : View ρ → ρ) : Value → ρ
  | list items => f ⟨list items, [], some (foldAll f items)⟩
  | tuple items => f ⟨tuple items, [], some (foldAll f items)⟩
  | iter items => f ⟨iter items, [], some (foldAll f items)⟩
  | dict entries => f ⟨dict entries, foldEntries f entries, none⟩
  | object attributes => f ⟨object attributes, foldFields f attributes, none⟩
  | typed shape members => f ⟨typed shape members, foldFields f members, none⟩
  | bytes .fixed data => f (alone (bytes .fixed data))
  | bytes .mutable data =>
    f ⟨bytes .mutable data, [], some (data.map fun b => (.int b.toNat, f (alone (.int b.toNat))))⟩
  | bytes .view data =>
    f ⟨bytes .view data, [], some (data.map fun b => (.int b.toNat, f (alone (.int b.toNat))))⟩
  | stream ahead =>
    f ⟨stream ahead, [],
      some ((linesFrom [] ahead).map fun l => (.ofBytes l, f (alone (.ofBytes l))))⟩
  | null => f (alone null)
  | bool b => f (alone (bool b))
  | int i => f (alone (int i))
  | float x => f (alone (float x))
  | str s => f (alone (str s))
  | datetime t => f (alone (datetime t))

/-- The results for the items of a sequence. -/
def foldAll {ρ : Type} (f : View ρ → ρ) : List Value → List (Value × ρ)
  | [] => []
  | v :: rest => (v, fold f v) :: foldAll f rest

/-- The results for the entries of a mapping. -/
def foldEntries {ρ : Type} (f : View ρ → ρ) : List (Value × Value) → List (Value × Value × ρ)
  | [] => []
  | (k, v) :: rest => (k, v, fold f v) :: foldEntries f rest

/-- The results for named fields. -/
def foldFields {ρ : Type} (f : View ρ → ρ) : List (String × Value) → List (Value × Value × ρ)
  | [] => []
  | (k, v) :: rest => (.str k, v, fold f v) :: foldFields f rest

end

variable {ρ : Type} (f : View ρ → ρ)

theorem foldAll_eq (items : List Value) :
    foldAll f items = items.map fun w => (w, fold f w) := by
  induction items with
  | nil => simp [foldAll]
  | cons v rest ih => simp [foldAll, ih]

theorem foldEntries_eq (entries : List (Value × Value)) :
    foldEntries f entries = entries.map fun p => (p.1, p.2, fold f p.2) := by
  induction entries with
  | nil => simp [foldEntries]
  | cons p rest ih => simp [foldEntries, ih]

theorem foldFields_eq (fields : List (String × Value)) :
    foldFields f fields = fields.map fun p => (.str p.1, p.2, fold f p.2) := by
  induction fields with
  | nil => simp [foldFields]
  | cons p rest ih => simp [foldFields, ih]

theorem fold_eq (v : Value) : fold f v = f (v.view (fold f)) := by
  match v with
  | null | bool _ | int _ | float _ | str _ | datetime _ | bytes .fixed _ =>
    simp [fold, view, alone, named, sequence?]
  | bytes .mutable _ | bytes .view _ | stream _ =>
    simp [fold, view, named, sequence?, alone, Function.comp_def]
  | list _ | tuple _ | iter _ => simp [fold, view, named, sequence?, foldAll_eq]
  | dict _ => simp [fold, view, named, sequence?, foldEntries_eq]
  | object _ | typed .. =>
    simp [fold, view, named, sequence?, foldFields_eq, Function.comp_def]

end Value

namespace View

variable {ρ : Type}

/-- The part under a text key, in the entries that are left. -/
def lookup (key : String) : List (Value × Value × ρ) → Option (Value × ρ)
  | [] => none
  | (.str k, p) :: rest => if k == key then some p else lookup key rest
  | _ :: rest => lookup key rest

/-- The part under a name, unless it is absent or nothing. -/
def member? (w : View ρ) (name : String) : Option (Value × ρ) :=
  (lookup name w.named).filter fun p => !p.1.isNull

/-- The items of a list, as opposed to other sequences. -/
def listItems? (w : View ρ) : Option (List (Value × ρ)) :=
  match w.whole with
  | .list _ => w.items?
  | _ => none

/-- The entries of a mapping. -/
def entries? (w : View ρ) : Option (List (Value × Value × ρ)) :=
  if w.whole.isMapping then some w.named else none

end View

end ServiceWire
