import RouteBinding.Host.Recording
import RouteBinding.Pass.Assignment
import RouteBinding.Pass.Report
import RouteBinding.Text.Duration

/-!
# Notices

What a dispatcher tells an operator, one line for each event, with the level in front.
-/

namespace RouteBinding

/-- One line of what happened. -/
inductive Notice where
  | passStarted (number : Nat)
  | upserted (kind : Kind) (id : ServiceId)
  | removed (kind : Kind) (id : ServiceId)
  | removalIgnored (kind : Kind)
  /-- A pass has seen that content was removed. -/
  | contentRemoved (kind : Kind) (name : String)
  | elsewhere (name : String)
  /-- A registered group has the path of the implicit default group. -/
  | implicitShadowed (path : String)
  /-- A provider is out of service; `still` tells whether it was before, for the same reason. -/
  | excluded (still : Bool) (failed : FailedProvider)
  /-- A provider is no longer out of service. -/
  | recovered (failed : FailedProvider)
  | unavailable (name : String) (error : AcquireError)
  | attached (name : String) (groups : Nat)
  /-- Another group is the default, or none. -/
  | defaultChanged (before after : Option ServiceId)
  | updated (op : Host.Operation) (group path : String)
  | callFailed (op : Host.Operation) (group path : String) (error : Host.Error)
  | passFinished (report : Report)
  | closeTimedOut (timeout : Nat)
  /-- The dispatcher is closed, and so many groups were unregistered. -/
  | closed (unregistered : Nat)
  deriving DecidableEq, Inhabited

namespace Notice

/-- The written form of the identity of a default group. -/
def defaultText : Option ServiceId → String
  | none => "None"
  | some id => "Some(ServiceId(" ++ toString id ++ "))"

/-- The written form of a provider that is or was out of service. -/
def failedText (f : FailedProvider) : String :=
  "kind=" ++ f.kind.label ++ " name=" ++ f.name ++ " service_id=" ++ ServiceId.label f.id

/-- The written form of a call to the host. -/
def callText (op : Host.Operation) (group path : String) : String :=
  "op=" ++ op.label ++ " group=" ++ group ++ " path=" ++ path

def render : Notice → String
  | passStarted n => "SPAN reconcile pass=" ++ toString n
  | upserted k id =>
    "DEBUG provider upserted kind=" ++ k.label ++ " service_id=" ++ ServiceId.label id
  | removed k id =>
    "DEBUG provider removed kind=" ++ k.label ++ " service_id=" ++ ServiceId.label id
  | removalIgnored k => "WARN remove event without a service id ignored kind=" ++ k.label
  | contentRemoved k name => "DEBUG content removed kind=" ++ k.label ++ " name=" ++ name
  | elsewhere name => "TRACE provider targets another runtime name=" ++ name
  | implicitShadowed path => "DEBUG implicit default shadowed by explicit group path=" ++ path
  | excluded still f =>
    (if still then "DEBUG provider still excluded " else "WARN provider excluded ") ++
      failedText f ++ " reason=" ++ f.reason.message
  | recovered f => "INFO provider no longer excluded " ++ failedText f
  | unavailable name e => "DEBUG payload acquire failed name=" ++ name ++ " err=" ++ e.message
  | attached name n => "TRACE content attached name=" ++ name ++ " groups=" ++ toString n
  | defaultChanged before after =>
    "INFO effective default group changed from=" ++ defaultText before ++
      " to=" ++ defaultText after
  | updated op group path => "INFO runtime updated " ++ callText op group path
  | callFailed op group path e =>
    "WARN runtime call failed " ++ callText op group path ++ " err=" ++ e.message
  | passFinished r => "DEBUG pass finished report=" ++ r.render
  | closeTimedOut ms => "WARN close timed out timeout=" ++ Text.duration ms
  | closed n => "INFO dispatcher closed unregistered=" ++ toString n

/-- The lines for what a pass finds out, given what the pass before it found and left as the default. -/
def ofFinding (previous : Snapshot) (default : Option ServiceId) : Finding → List Notice
  | .elsewhere p => [elsewhere p.name]
  | .implicitShadowed path => [implicitShadowed path]
  | .unavailable p e => [unavailable p.name e]
  | .attached p n => [attached p.name n]
  | .excluded p r => [excluded (previous.reasonOf p.id == some r) ⟨p.id, p.name, p.kind, r⟩]
  | .chosen d => if d = default then [] else [defaultChanged default d]

end Notice

end RouteBinding
