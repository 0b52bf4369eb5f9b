import StepUp.Failure.FlowError
import StepUp.Login.Authentication

/-!
# Transactions

All the requests that were made for one login.  They target one service and come from different
sources; a request that would break this is refused, and the transaction stays as it was.
-/

namespace StepUp

/-- The requests made for a login at one service. -/
structure Transaction where
  target : String
  primary : Option Authentication := none
  requests : List MethodRequest := []

namespace Transaction

/-- The transaction of one request, for the request's own target. -/
def ofRequest (r : MethodRequest) : Transaction :=
  { target := r.target, requests := [r] }

/-- Whether a request of this source is there. -/
def containsSource (t : Transaction) (source : MethodSource) : Bool :=
  t.requests.any fun r => r.source == source

/-- The transaction with one request more.  A wrong target is reported before a source that is
already there. -/
def add (t : Transaction) (r : MethodRequest) : Except FlowError Transaction :=
  if r.target ≠ t.target then .error (.targetServiceMismatch t.target r.target)
  else if t.containsSource r.source then .error (.duplicateSource r.source)
  else .ok { t with requests := t.requests ++ [r] }

/-- The transaction with the requests of a list up to the first that is refused, and its refusal. -/
def addAll (t : Transaction) : List MethodRequest → Option FlowError × Transaction
  | [] => (none, t)
  | r :: rest =>
    match t.add r with
    | .ok t => t.addAll rest
    | .error e => (some e, t)

/-- The transaction with its primary authentication set. -/
def setPrimary (t : Transaction) (a : Authentication) : Transaction :=
  { t with primary := some a }

end Transaction

end StepUp
