import StepUp.Failure.ConfigFault

/-!
# What the flow engine is told

The errors that leave the service.  An attempt that failed by a recoverable one may be started
again; the others are faults of the deployment or of the calling flow.
-/

namespace StepUp

/-- An error as the flow engine sees it. -/
inductive FlowError where
  | unregisteredMethod (method : String)
  | unacceptableMethod (method : String)
  | unrecognizedMethod (method : String) (serviceId : Option String)
  | targetServiceMismatch (expected actual : String)
  | duplicateSource (source : MethodSource)
  | identityMismatch (expected actual : String)
  | emptyChain
  | noMethodSelected
  | invalidConfiguration (fault : ConfigFault)
  | internal (reason : String)
deriving DecidableEq, Repr

namespace FlowError

/-- The error in words. -/
def message : FlowError → String
  | unregisteredMethod method => "authentication method '" ++ method ++ "' is not registered"
  | unacceptableMethod method =>
    "requested authentication method '" ++ method ++ "' is not available"
  | unrecognizedMethod method serviceId =>
    "authentication method '" ++ method ++ "' is not recognized"
      ++ (match serviceId with
        | some id => " for service '" ++ id ++ "'"
        | none => "")
  | targetServiceMismatch expected actual =>
    "requested target service '" ++ actual ++ "' differs from the transaction target service '"
      ++ expected ++ "'"
  | duplicateSource source => "a method request from source " ++ source.label ++ " already exists"
  | identityMismatch expected actual =>
    "principal '" ++ actual ++ "' does not match the authentication chain principal '" ++ expected
      ++ "'"
  | emptyChain => "authentication chain is empty"
  | noMethodSelected => "no authentication method has been selected for this attempt"
  | invalidConfiguration fault => "invalid configuration: " ++ fault.reason
  | internal reason => "internal error: " ++ reason

/-- Whether the attempt may be started again. -/
def isRecoverable : FlowError → Bool
  | unacceptableMethod _ | unrecognizedMethod .. | identityMismatch .. => true
  | _ => false

end FlowError

end StepUp
