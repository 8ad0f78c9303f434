import LinkPreview.Log.Entry

/-! The log of a run. Every line carries the trace ID that is current when it is printed; an ID is
generated when one is needed and there is none. -/
set_option autoImplicit false

namespace LinkPreview.Log

/-- A trace ID: one that was given, or the `n`-th generated one. -/
inductive TraceId where
  | given (id : String)
  | generated (n : Nat)
  deriving DecidableEq, Repr

structure Line where
  severity : Severity
  event : String
  traceId : TraceId
  fields : Fields

structure Journal where
  threshold : Nat
  current : Option TraceId
  generated : Nat
  lines : List Line

namespace Journal

def start (threshold : Nat) : Journal := ⟨threshold, none, 0, []⟩

def generate (j : Journal) : TraceId × Journal :=
  let id := TraceId.generated (j.generated + 1)
  (id, { j with current := some id, generated := j.generated + 1 })

/-- Sets the trace ID: the given one, or a new one if it is empty or none is given. -/
def setTrace (j : Journal) (id : Option String) : TraceId × Journal :=
  match id with
  | none => j.generate
  | some id =>
    if id.isEmpty then j.generate else (.given id, { j with current := some (.given id) })

def trace (j : Journal) : TraceId × Journal :=
  match j.current with
  | some id => (id, j)
  | none => j.generate

def prints (j : Journal) (severity : Severity) : Bool := j.threshold ≤ severity.rank

def print (j : Journal) (e : Entry) : Journal :=
  if j.prints e.severity then
    let (id, j) := j.trace
    { j with lines := j.lines ++ [⟨e.severity, e.event, id, e.fields⟩] }
  else j

/-- Prints an entry with free fields. One of them would take the place of the printing method. -/
def record (j : Journal) (e : Entry) : Except Fault Journal :=
  if j.prints e.severity && e.fields.has "method_name" then .error .mismatch else .ok (j.print e)

def report (j : Journal) (c : Call) : Except Fault Journal := do j.record (← c.entry)

def printAll (j : Journal) (events : List Event) : Journal :=
  events.foldl (fun j e => j.print e.entry) j

end Journal

/-- All that a line shows. The trace ID, the severity and the event take the place of given fields
of their names, and the time of printing is left out. -/
def Line.shown (showId : TraceId → Value) (l : Line) : Fields :=
  let given : Fields := l.fields.filter fun (key, _) => key != "timestamp"
  ((given.put "event" (.text l.event)).put "trace_id" (showId l.traceId)).put "level"
    (.text l.severity.name)

end LinkPreview.Log
