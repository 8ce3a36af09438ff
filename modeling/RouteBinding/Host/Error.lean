/-!
# Errors of a host

Why a host did not do what it was asked to do for a group.
-/

namespace RouteBinding.Host

/-- Why a call to a host failed. -/
inductive Error where
  | rejected (group reason : String)
  | notRegistered (group : String)
  /-- The host gave up in the middle of the call. -/
  | panicked (note : String)
  | custom (text : String)
  deriving DecidableEq, Inhabited

def Error.message : Error → String
  | rejected group reason => "runtime rejected group `" ++ group ++ "`: " ++ reason
  | notRegistered group => "group `" ++ group ++ "` is not registered"
  | panicked note => "runtime adapter panicked: " ++ note
  | custom text => text

end RouteBinding.Host
