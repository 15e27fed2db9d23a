import ServiceWire.Value

/-!
# Metrics

What is counted while messages are written and read. A metric is a name with labels; counting is
a list of increments, in the order in which they happened.
-/

namespace ServiceWire

/-- An increment of a metric by one. -/
structure Increment where
  name : String
  /-- The labels, sorted by name. -/
  labels : List (String × String)
deriving DecidableEq, Repr

namespace Increment

/-- The name of a metric with its labels. -/
def render (i : Increment) : String :=
  i.name ++ "\x7b" ++ Text.join "," (i.labels.map fun p => p.1 ++ "=" ++ p.2) ++ "\x7d"

/-- How a step ended, as the value of a label. -/
def status (ok : Bool) : String := if ok then "success" else "error"

/-- A request was written, or not. -/
def request (protocol : String) (ok : Bool) : Increment :=
  ⟨"shapewire_marshall_total", [("protocol", protocol), ("status", status ok)]⟩

/-- The time of writing a request was taken. -/
def requestTime (protocol : String) : Increment :=
  ⟨"shapewire_marshall_duration_seconds_count", [("protocol", protocol)]⟩

/-- A response was read, or not. -/
def response (protocol : String) (ok : Bool) : Increment :=
  ⟨"shapewire_unmarshall_total", [("protocol", protocol), ("status", status ok)]⟩

/-- A frame of an event stream was written or read, or not, or its event is unknown. -/
def frame (direction state : String) : Increment :=
  ⟨"shapewire_event_stream_frames_total", [("direction", direction), ("status", state)]⟩

/-- An event is none of the known ones. -/
def unknownEvent (event : String) : Increment :=
  ⟨"shapewire_unknown_events_total", [("event_type", event)]⟩

/-- How often each metric was incremented, in the order of the first increments. -/
def totals (increments : List Increment) : List (Increment × Nat) :=
  increments.foldl (fun acc i =>
    if acc.any fun p => p.1 == i then
      acc.map fun p => if p.1 == i then (p.1, p.2 + 1) else p
    else acc ++ [(i, 1)]) []

/-- Increments as a report: how often each metric was incremented. -/
def report (increments : List Increment) : Value :=
  .ofFields ((totals increments).map fun p => (p.1.render, .int p.2))

end Increment

end ServiceWire
