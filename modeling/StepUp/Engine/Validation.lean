import StepUp.Failure.ServiceError
import StepUp.Login.Authentication
import StepUp.Text.Blank

/-!
# Validation

What the last authentication of a chain has to record, and how long the chain may be.
-/

namespace StepUp

/-- A requirement on a chain of authentications. -/
structure Validation where
  /-- The method that has to be recorded; a blank one counts as none. -/
  required : Option String
  /-- The service that errors name. -/
  serviceId : Option String := none
  /-- Whether a chain may be longer than one authentication. -/
  allowProxied : Bool := false

namespace Validation

/-- The requirement of a method. -/
def ofMethod (method : Option String) : Validation :=
  { required := method.bind Text.nonblank? }

/-- Whether a chain meets the requirement.  An authentication that records no method lacks the
required one; one that records others is not recognized. -/
def check (v : Validation) (chain : List Authentication) : Except ServiceError Bool :=
  match chain.getLast? with
  | none => .ok false
  | some last =>
    let satisfied := last.satisfiedMethods
    let result := .ok (v.allowProxied || chain.length == 1)
    match v.required with
    | none => result
    | some method =>
      if satisfied.isEmpty then .error (.unacceptableMethod method)
      else if satisfied.contains method then result
      else .error (.unrecognizedMethod method (v.serviceId.getD ""))

end Validation

end StepUp
