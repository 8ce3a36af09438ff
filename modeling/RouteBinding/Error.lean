import RouteBinding.Dispatcher.Basic

/-!
# Errors

Everything that can go wrong, by where it went wrong.  That a provider is left out of service is no error: it
is recorded with the provider.
-/

namespace RouteBinding

/-- An error of any part. -/
inductive Error where
  | filter (e : Filter.Error)
  | host (e : Host.Error)
  /-- The dispatcher did not do what it was asked. -/
  | dispatch (e : DispatchError)
  | custom (text : String)
  deriving DecidableEq, Inhabited

def Error.message : Error → String
  | filter e => "filter error: " ++ e.message
  | host e => "runtime error: " ++ e.message
  | dispatch e => "dispatch error: " ++ e.message
  | custom text => text

end RouteBinding
