/-!
# Reasons for leaving a provider out

Each provider that a pass leaves out of service is reported with one of these reasons.
-/

namespace RouteBinding

/-- Why a provider is not in service. -/
inductive Reason where
  /-- It is not marked as a provider of its kind, or it has no path where one is needed. -/
  | invalid
  /-- A filter of it cannot be read, or its name or rank is not allowed. -/
  | validationFailed
  /-- It lost a conflict over a path or over the place of the default group. -/
  | shadowed
  /-- It lost a conflict over a name. -/
  | duplicateName
  /-- No route group takes it. -/
  | applicationUnavailable
  /-- A requirement of it is not met. -/
  | extensionsUnavailable
  /-- Its content advertises no contract. -/
  | notAnExtension
  /-- Its content could not be acquired. -/
  | notGettable
  deriving DecidableEq, Inhabited

namespace Reason

def message : Reason → String
  | invalid => "invalid"
  | validationFailed => "validation failed"
  | shadowed => "shadowed by other service"
  | duplicateName => "duplicate name"
  | applicationUnavailable => "required application unavailable"
  | extensionsUnavailable => "required extensions unavailable"
  | notAnExtension => "not an extension type"
  | notGettable => "service not gettable"

/-- The reasons in the order of their declaration. -/
def every : List Reason :=
  [invalid, validationFailed, shadowed, duplicateName, applicationUnavailable,
    extensionsUnavailable, notAnExtension, notGettable]

end Reason

end RouteBinding
