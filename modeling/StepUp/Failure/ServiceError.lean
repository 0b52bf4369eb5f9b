import StepUp.Failure.FlowError

/-!
# What goes wrong inside the service

The errors of the service's own operations, and what the flow engine is told for each of them.
-/

namespace StepUp

/-- An error of the service. -/
inductive ServiceError where
  | unregisteredMethod (method : String)
  | unacceptableMethod (method : String)
  | unrecognizedMethod (method serviceId : String)
  | invalidPattern (pattern reason : String)
  | invalidConfig (fault : ConfigFault)
  | validationFailed (reason : String)
  /-- An attempt, a transaction or a chain refused the step. -/
  | rejected (error : FlowError)
deriving DecidableEq, Repr

namespace ServiceError

/-- The error in words. -/
def message : ServiceError → String
  | unregisteredMethod method => "authentication method '" ++ method ++ "' is not registered"
  | unacceptableMethod method =>
    "requested authentication method '" ++ method ++ "' is not available"
  | unrecognizedMethod method serviceId =>
    "authentication method '" ++ method ++ "' is not recognized for service '" ++ serviceId ++ "'"
  | invalidPattern pattern reason => "invalid pattern '" ++ pattern ++ "': " ++ reason
  | invalidConfig fault => "invalid configuration: " ++ fault.reason
  | validationFailed reason => "composite authentication failed validation: " ++ reason
  | rejected error => error.message

/-- The error that the flow engine is told. -/
def toFlowError : ServiceError → FlowError
  | unregisteredMethod method => .unregisteredMethod method
  | unacceptableMethod method => .unacceptableMethod method
  | unrecognizedMethod method serviceId => .unrecognizedMethod method (some serviceId)
  | invalidPattern pattern reason => .invalidConfiguration (.invalidPattern pattern reason)
  | invalidConfig fault => .invalidConfiguration fault
  | validationFailed reason => .internal reason
  | rejected error => error

end ServiceError

end StepUp
