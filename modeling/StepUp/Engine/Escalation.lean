import StepUp.Login.Decision
import StepUp.Method.Ranking

/-!
# The escalation decision

Whether an attempt has to step up before its login goes on.
-/

namespace StepUp

/-- What the decision looks at. -/
structure EscalationInput where
  transaction : Option Transaction := none
  /-- The request came with a session id. -/
  hasSession : Bool := false
  /-- The authentication of that session, if the session is alive. -/
  session : Option Authentication := none
  /-- The caller asked for a new authentication. -/
  renew : Bool := false

/-- The decision on an input.  Without requests or without a session the attempt goes on, and what
was requested is enforced after the primary login.  A session of which nothing is known has to step
up; one that satisfied a method as strong as the one required need not, and neither need one that
is to be renewed anyway. -/
def Strategy.decide (k : Strategy) (input : EscalationInput) : Except ServiceError Decision :=
  match input.transaction with
  | none => .ok .continueNormally
  | some t =>
    match k.highest t with
    | .error e => .error e
    | .ok none => .ok .continueNormally
    | .ok (some required) =>
      if !input.hasSession || Text.blank required.method then .ok .continueNormally
      else
        match input.session with
        | none => .ok (.requireMethod required)
        | some session =>
          match k.covers session.satisfiedMethods required.method with
          | .error e => .error e
          | .ok covered =>
            .ok (if covered || input.renew then .continueNormally else .requireMethod required)

/-- The decision under a ranking by ranks. -/
def Ranking.decide (k : Ranking) (input : EscalationInput) : Except ServiceError Decision :=
  k.strategy.decide input

end StepUp
