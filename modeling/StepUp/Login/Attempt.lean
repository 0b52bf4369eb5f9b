import StepUp.Login.Chain
import StepUp.Login.Transaction

/-!
# Login attempts

The state of one attempt between the calls of the flow engine.
-/

namespace StepUp

/-- Where an attempt stands. -/
inductive AttemptState where
  /-- Nobody requested a method. -/
  | noTransaction
  /-- Methods are requested, and nothing is decided. -/
  | evaluating
  /-- The attempt goes on without a step-up. -/
  | continueNormally
  /-- The named method is required. -/
  | requireMethod (method : String)
deriving DecidableEq, Repr

/-- A login attempt. -/
structure Attempt where
  state : AttemptState
  transaction : Option Transaction := none
  session : Option Authentication := none
  selected : Option MethodRequest := none
  chain : Chain := .empty

namespace Attempt

/-- A new attempt, of the requests made so far and the session it comes with. -/
def start (transaction : Option Transaction) (session : Option Authentication) : Attempt where
  state := if transaction.isSome then .evaluating else .noTransaction
  transaction := transaction
  session := session

/-- The attempt with a transaction installed. -/
def setTransaction (a : Attempt) (t : Transaction) : Attempt :=
  { a with
    transaction := some t
    state := if a.state = .noTransaction then .evaluating else a.state }

/-- The attempt with a request selected, whose method is then required. -/
def select (a : Attempt) (r : MethodRequest) : Attempt :=
  { a with state := .requireMethod r.method, selected := some r }

end Attempt

end StepUp
