/-
The shutdown of a server: it is triggered once, tasks that wait for it then end, and when all of
them have ended the store is closed.
-/
namespace RowSieve.Service

/-- The state of a shutdown. -/
structure Shutdown where
  triggered : Bool
  closed : Bool
  /-- The number of tasks that wait for the trigger. -/
  waiting : Nat
  /-- The number of tasks that have ended. -/
  ended : Nat
deriving DecidableEq

namespace Shutdown

def start : Shutdown := ⟨false, false, 0, 0⟩

/-- Adds a task that waits for the trigger. -/
def register (s : Shutdown) : Shutdown := { s with waiting := s.waiting + 1 }

/-- Lets the waiting tasks go. -/
def trigger (s : Shutdown) : Shutdown := { s with triggered := true }

/-- Triggers, waits for the tasks and closes the store. -/
def run (s : Shutdown) : Shutdown :=
  { triggered := true, closed := true, waiting := 0, ended := s.ended + s.waiting }

/-- Whether someone who waits for the trigger goes on at once. -/
def waitIsOver (s : Shutdown) : Bool := s.triggered

end Shutdown

end RowSieve.Service
