import LinkPreview.Log.Journal

set_option autoImplicit false

namespace LinkPreview.Log

inductive Step where
  | setTrace (id : Option String)
  | getTrace
  | report (call : Call)
  | free (name event : String) (fields : Fields)

structure Outcome where
  value : Except Fault (Option TraceId)
  lines : List Line

namespace Journal

/-- A step that fails leaves the log as it is. -/
def settle (j : Journal) : Except Fault Journal → Except Fault (Option TraceId) × Journal
  | .ok after => (.ok none, after)
  | .error fault => (.error fault, j)

def give (found : TraceId × Journal) : Except Fault (Option TraceId) × Journal :=
  (.ok (some found.1), found.2)

def take (j : Journal) : Step → Except Fault (Option TraceId) × Journal
  | .setTrace id => give (j.setTrace id)
  | .getTrace => give j.trace
  | .report call => j.settle (j.report call)
  | .free name event fields => j.settle (do j.record (← Entry.named name event fields))

def step (j : Journal) (s : Step) : Outcome × Journal :=
  let (value, after) := j.take s
  (⟨value, after.lines.drop j.lines.length⟩, after)

def run (j : Journal) : List Step → List Outcome
  | [] => []
  | s :: more =>
    let (outcome, j) := j.step s
    outcome :: j.run more

end Journal
end LinkPreview.Log
