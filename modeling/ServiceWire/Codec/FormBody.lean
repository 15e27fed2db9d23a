import ServiceWire.Codec.Scalar
import ServiceWire.Codec.Table
import ServiceWire.Value.View

/-!
# Form bodies

Values as the parameters of a form. The name of a parameter is the path to its value: the wire
names of members, the numbers of items and entries, joined with points. A path of one name alone is
that name, whatever it is; a longer one is a text. Forms are written only.
-/

namespace ServiceWire.FormBody

variable (c : Codec) (g : Graph)

/-- The parameters of a form, in order. -/
abbrev Params : Type := List (Value × String)

/-- What writes a value as parameters, given its shape and the path to it. -/
abbrev Writing : Type := g.Ref → Value → Except Fault Params

/-- A path of two parts. -/
def extend (path name : Value) : Value := .str s!"{path.text}.{name.text}"

/-- The path to a part. -/
def joinPath (path name : Value) : Value := if path.truthy then extend path name else name

/-- The path to a numbered part. -/
def numbered (path : Value) (index : Nat) : Value := extend path (.int index)

/-- The parameters of a member of a structure. -/
def writeMember (path : Value) (w : View (Writing g)) (m : Member g.size) :
    Except Fault Params :=
  match w.member? m.name with
  | none => .ok []
  | some (_, write) => do
    c.needWriter (g.shape m.shape)
    write m.shape (joinPath path m.wireName)

/-- The parameters of the members of a structure. -/
def writeMembers (members : List (Member g.size)) (path : Value) (w : View (Writing g)) :
    Except Fault Params :=
  (members.mapM (writeMember c g path w)).map List.flatten

/-- The parameters of the items of a list, numbered from an index on. -/
def writeItems (item : g.Ref) (path : Value) : Nat → List (Value × Writing g) →
    Except Fault Params
  | _, [] => .ok []
  | i, p :: rest => do
    let first ← p.2 item (numbered path i)
    let others ← writeItems item path (i + 1) rest
    return first ++ others

/-- The parameters of the entries of a map, numbered from an index on. -/
def writeEntries (s : Shape g.size) (value : g.Ref) (path : Value) : Nat →
    List (Value × Value × Writing g) → Except Fault Params
  | _, [] => .ok []
  | i, p :: rest => do
    let entry := numbered path i
    let key ← (Scalar.string p.1).mapError .failure
    let first ← p.2.2 value (extend entry s.valueTag)
    let others ← writeEntries s value path (i + 1) rest
    return (extend entry s.keyTag, key) :: first ++ others

/-- The parameters of a value, from those of its parts. -/
def writeView (w : View (Writing g)) : Writing g := fun r path =>
  let s := g.shape r
  match s.form with
  | .struct members => writeMembers c g members path w
  | .list item =>
    match w.items? with
    | none => .error (.failure (.expectedFor "list" s.name w.whole.typeName))
    | some [] => .ok [(path, "")]
    | some items => do
      c.needWriter (g.shape item)
      writeItems g item (if s.flattened then path else joinPath path s.itemTag) 1 items
  | .map _ value =>
    match w.entries? with
    | none => .error (.failure (.expectedFor "mapping" s.name w.whole.typeName))
    | some entries => do
      c.needWriter (g.shape value)
      writeEntries g s value (if s.flattened then path else joinPath path (.str "entry")) 1 entries
  | .scalar k =>
    ((Scalar.textOf .iso8601 k w.whole).mapError .failure).map fun text => [(path, text)]

/-- The parameters of a value of a shape. -/
def write (v : Value) : Writing g := v.fold (writeView c g)

theorem write_eq (v : Value) : write c g v = writeView c g (v.view (write c g)) :=
  Value.fold_eq _ v

/-- The parameters of a whole value; of a structure, only some members may be asked for. -/
def toParams (v : Value) (r : g.Ref) (path : Value)
    (members : Option (List (Member g.size))) : Except Fault Params :=
  match (g.shape r).form with
  | .struct all => writeMembers c g (members.getD all) path (v.view (write c g))
  | _ => do
    c.needWriter (g.shape r)
    write c g v r path

end ServiceWire.FormBody
