import StepUp.Settings.ResolverKind

/-!
# Faults of a configuration

What can be wrong with the settings of a service, each with the reason given for it.
-/

namespace StepUp

/-- A fault of the configuration. -/
inductive ConfigFault where
  /-- Two methods have one name. -/
  | duplicateMethod (name : String)
  /-- Two resolvers make requests of one source, which no transaction could hold. -/
  | sharedSource (first second : ResolverKind)
  /-- The methods file is not there. -/
  | missingMethodsFile (path : String)
  /-- A pattern is not a regular expression. -/
  | invalidPattern (pattern reason : String)
  /-- A text or a value does not have the expected form. -/
  | malformed (reason : String)
deriving DecidableEq, Repr

/-- The reason in words. -/
def ConfigFault.reason : ConfigFault → String
  | duplicateMethod name => "authentication method '" ++ name ++ "' is registered more than once"
  | sharedSource first second =>
    "resolvers " ++ first.title ++ " and " ++ second.title ++ " both produce "
      ++ second.source.label ++ " requests"
  | missingMethodsFile path =>
    "cannot read methods file '" ++ path ++ "': No such file or directory (os error 2)"
  | invalidPattern pattern reason => "invalid pattern '" ++ pattern ++ "': " ++ reason
  | malformed reason => reason

end StepUp
