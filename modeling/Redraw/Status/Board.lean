import Redraw.Chart.Identity
import Redraw.OrderedMap
import Redraw.Status.Snapshot

/-!
# The status board

The board holds what the host knows about each chart. The host sets status, overlay and alert; the
rendering signals that a chart was rendered or that it failed. A chart gets an entry with the first
change that concerns it.
-/

namespace Redraw

/-- A chart's snapshot, where its last failure came from, and how often it was signaled. Both counts
start at zero and go up by one with a signal, and an operation gives at most one signal: to wrap a
machine word takes 2^64 operations, which no host performs, so the counts are natural numbers. -/
structure StatusEntry where
  snapshot : StatusSnapshot := {}
  stack : Option String := none
  succeeded : Nat := 0
  failed : Nat := 0
deriving DecidableEq, Repr

/-- The entries of all charts. -/
abbrev StatusBoard := OrderedMap ChartId StatusEntry

namespace StatusBoard

/-- The entry of a chart, empty before the first change. -/
def entry (b : StatusBoard) (c : ChartId) : StatusEntry := (b.get? c).getD {}

/-- What the host says about a chart. -/
def snapshot (b : StatusBoard) (c : ChartId) : StatusSnapshot := (b.entry c).snapshot

/-- The status of a chart. -/
def status? (b : StatusBoard) (c : ChartId) : Option ChartStatus := (b.snapshot c).status

/-- Changes the entry of a chart. -/
def update (b : StatusBoard) (c : ChartId) (change : StatusEntry → StatusEntry) : StatusBoard :=
  b.insert c (change (b.entry c))

/-- The host sets the status. -/
def setStatus (b : StatusBoard) (c : ChartId) (status : Option ChartStatus) : StatusBoard :=
  b.update c fun e => { e with snapshot := { e.snapshot with status := status } }

/-- The host shows or hides the overlay. -/
def setOverlay (b : StatusBoard) (c : ChartId) (visible : Bool) : StatusBoard :=
  b.update c fun e => { e with snapshot := { e.snapshot with overlay := visible } }

/-- The host opens or closes an alert. -/
def setAlert (b : StatusBoard) (c : ChartId) (alert : Option String) : StatusBoard :=
  b.update c fun e => { e with snapshot := { e.snapshot with alert := alert } }

/-- The chart was rendered. -/
def signalSuccess (b : StatusBoard) (c : ChartId) : StatusBoard :=
  b.update c fun e =>
    { e with
      snapshot := { e.snapshot with status := some .rendered }
      succeeded := e.succeeded + 1 }

/-- The chart failed: its status is the error, and the alert shows the error's text. -/
def signalFailure (b : StatusBoard) (c : ChartId) (error : String) (stack : Option String) :
    StatusBoard :=
  b.update c fun e =>
    { e with
      snapshot := { e.snapshot with status := some .error, alert := some error }
      stack := stack
      failed := e.failed + 1 }

end StatusBoard

end Redraw
