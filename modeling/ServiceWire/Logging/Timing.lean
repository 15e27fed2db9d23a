import ServiceWire.Entries
import ServiceWire.Value

/-!
# Timings

How long operations took. Of each operation the last samples are kept, as many as a limit says;
the statistics are those of the samples that are kept. A body is timed whether it fails or not, and
its failure is passed on.
-/

namespace ServiceWire

/-- The samples of operations, by their names. -/
structure Timings where
  limit : Int := 1000
  samples : List (String × List Value) := []

namespace Timings

/-- The samples that are kept: as many of the last ones as the limit says. A limit of zero keeps all
of them; a limit below zero leaves out that many of the first ones. -/
def kept (limit : Int) (samples : List Value) : List Value :=
  if samples.length ≤ limit ∨ limit = 0 then samples
  else if limit < 0 then samples.drop limit.natAbs
  else samples.drop (samples.length - limit.toNat)

/-- The samples of an operation. -/
def of (t : Timings) (name : String) : List Value := (t.samples.lookup name).getD []

/-- The timings with the samples of an operation replaced. -/
def replace (t : Timings) (name : String) (samples : List Value) : Timings :=
  { t with samples := Entries.put name samples t.samples }

/-- The timings with one more sample of an operation. -/
def add (t : Timings) (name : String) (sample : Value) : Timings :=
  t.replace name (kept t.limit (t.of name ++ [sample]))

/-- Takes the time of a body, as that of an operation; how long the body takes is given. However it
ends, the time is kept, and then the body's ending is passed on. -/
def time {ε α : Type} (name : String) (duration : Double) (body : ExceptT ε (StateM Timings) α) :
    ExceptT ε (StateM Timings) α :=
  ExceptT.mk do
    let ending ← body.run
    modify fun t => t.add name (.float duration)
    return ending

/-- The sample that comes first in an order; of several such samples the first one. -/
def extreme (before : Numeric → Numeric → Bool) (first : Value × Numeric)
    (rest : List (Value × Numeric)) : Value :=
  (rest.foldl (fun best p => if before p.2 best.2 then p else best) first).1

/-- A sample as a number. -/
def measured (v : Value) : Except Failure (Value × Numeric) :=
  match v.numeric? with
  | some x => .ok (v, x)
  | none => .error (.plain .type)

/-- The statistics of an operation. Without samples there are none. -/
def stats (t : Timings) (name : String) : Except Failure Value := do
  match ← (t.of name).mapM measured with
  | [] => return .null
  | first :: rest =>
    let count := rest.length + 1
    let total ← Numeric.sum ((first :: rest).map Prod.snd)
    let mean ← total.divNat count
    return .ofFields
      [("count", .int count), ("avg_duration", .float mean),
        ("min_duration", extreme Numeric.lt first rest),
        ("max_duration", extreme (fun a b => b.lt a) first rest),
        ("total_duration", .ofNumeric total)]

end Timings

end ServiceWire
