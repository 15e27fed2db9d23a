/-!
# Kinds of shapes

A shape is a structure, a list, a map or one of eight kinds of scalars. A member of a structure
is carried by one part of an HTTP message, its location.
-/

namespace ServiceWire

/-- The kinds of scalars. -/
inductive ScalarKind
  | string
  | integer
  | long
  | float
  | double
  | boolean
  | timestamp
  | blob
deriving DecidableEq, Repr

/-- The kinds of shapes. -/
inductive ShapeKind
  | struct
  | list
  | map
  | scalar (kind : ScalarKind)
deriving DecidableEq, Repr

/-- All kinds of scalars. -/
def ScalarKind.all : List ScalarKind :=
  [.string, .integer, .long, .float, .double, .boolean, .timestamp, .blob]

/-- The name of a kind of scalars. -/
def ScalarKind.label : ScalarKind → String
  | .string => "string"
  | .integer => "integer"
  | .long => "long"
  | .float => "float"
  | .double => "double"
  | .boolean => "boolean"
  | .timestamp => "timestamp"
  | .blob => "blob"

namespace ShapeKind

/-- All kinds of shapes. -/
def all : List ShapeKind := [.struct, .list, .map] ++ ScalarKind.all.map .scalar

/-- The name of a kind. -/
def label : ShapeKind → String
  | struct => "structure"
  | list => "list"
  | map => "map"
  | scalar k => k.label

/-- The kind of a name. -/
def ofLabel? (s : String) : Option ShapeKind := all.find? fun k => k.label == s

/-- Whether a kind is one of scalars. -/
def isScalar : ShapeKind → Bool
  | scalar _ => true
  | _ => false

theorem mem_all (k : ShapeKind) : k ∈ all := by
  rcases k with _ | _ | _ | k
  · decide
  · decide
  · decide
  · cases k <;> decide

end ShapeKind

/-- Where a member of a structure is carried. -/
inductive Location
  | body
  | header
  | uri
  | query
  | statusCode
deriving DecidableEq, Repr

namespace Location

/-- All locations. -/
def all : List Location := [body, header, uri, query, statusCode]

/-- The name of a location. -/
def label : Location → String
  | body => "body"
  | header => "header"
  | uri => "uri"
  | query => "querystring"
  | statusCode => "statusCode"

/-- The location of a name. -/
def ofLabel? (s : String) : Option Location := all.find? fun l => l.label == s

end Location

end ServiceWire
