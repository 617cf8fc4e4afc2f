/-!
# Progress of a run

A run tells when it starts and ends, and when each tool does. A tracker keeps the tools that are
executing and those that have finished; a tool may execute several times at once.
-/

set_option autoImplicit false

namespace MetaLint

inductive RunEvent
  | start
  | toolStart (tool : String)
  | toolFinish (tool : String)
  | finish
  deriving Repr, DecidableEq

structure Tracker where
  current : List String := []
  completed : List String := []
  deriving Repr, DecidableEq, Inhabited

namespace Tracker

def start (t : Tracker) (tool : String) : Tracker := { t with current := t.current ++ [tool] }

/-- Ends the earliest execution of a tool; the answer says whether there was one. -/
def finish (t : Tracker) (tool : String) : Bool × Tracker :=
  if t.current.contains tool then
    (true, { current := t.current.erase tool, completed := t.completed ++ [tool] })
  else (false, t)

def observe (t : Tracker) : RunEvent → Tracker
  | .toolStart tool => t.start tool
  | .toolFinish tool => (t.finish tool).2
  | .start | .finish => t

def ofEvents (events : List RunEvent) : Tracker := events.foldl observe {}

theorem finish_eq_true_iff (t : Tracker) (tool : String) :
    (t.finish tool).1 = true ↔ tool ∈ t.current := by
  by_cases h : tool ∈ t.current <;> simp [finish, h]

theorem finish_of_not_mem {t : Tracker} {tool : String} (h : tool ∉ t.current) :
    t.finish tool = (false, t) := by
  simp [finish, h]

end Tracker

end MetaLint
