import StepUp.Method.Request

/-!
# Decisions and outcomes

What an attempt is told: to go on normally or to enter the flow of a method, and after a step
whether everything required is satisfied.
-/

namespace StepUp

/-- The decision on an attempt before its primary login. -/
inductive Decision where
  | continueNormally
  | requireMethod (request : MethodRequest)
deriving DecidableEq, Repr

namespace Decision

/-- The method that has to be completed. -/
def requiredMethod? : Decision → Option String
  | continueNormally => none
  | requireMethod r => some r.method

/-- The event by which the flow goes on: the normal login, or the sub-flow of the method. -/
def eventId : Decision → String
  | continueNormally => "requireTgt"
  | requireMethod r => "mfa_" ++ r.method

/-- The JSON form. -/
def toJson : Decision → Json
  | continueNormally => .str "ContinueNormally"
  | requireMethod r => .obj [("RequireMethod", r.toJson)]

/-- Reads the JSON form. -/
def ofJson : Json → Json.Read Decision
  | .str "ContinueNormally" | .obj [("ContinueNormally", .null)] => .ok continueNormally
  | .obj [("RequireMethod", r)] => (MethodRequest.ofJson r).map requireMethod
  | _ => .error (.wrongType "decision")

end Decision

/-- The outcome of a step that was chained. -/
inductive Outcome where
  | completed
  | requireMethod (request : MethodRequest)
deriving DecidableEq, Repr

/-- The JSON form. -/
def Outcome.toJson : Outcome → Json
  | completed => .str "Completed"
  | requireMethod r => .obj [("RequireMethod", r.toJson)]

end StepUp
