/-!
# Reports

How many calls a pass made with success, by operation, how many failed, and how many providers it left out.
-/

namespace RouteBinding

/-- What a pass did. -/
structure Report where
  registered : Nat := 0
  reloaded : Nat := 0
  unregistered : Nat := 0
  failedCalls : Nat := 0
  failures : Nat := 0
  deriving DecidableEq, Inhabited

namespace Report

def operations (r : Report) : Nat := r.registered + r.reloaded + r.unregistered

def render (r : Report) : String :=
  "PassReport \x7b registered: " ++ toString r.registered ++ ", reloaded: " ++ toString r.reloaded ++
    ", unregistered: " ++ toString r.unregistered ++ ", failed_calls: " ++ toString r.failedCalls ++
    ", failures: " ++ toString r.failures ++ " \x7d"

end Report

end RouteBinding
