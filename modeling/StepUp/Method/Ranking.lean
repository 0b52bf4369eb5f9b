import StepUp.Login.Transaction
import StepUp.Method.Registry

/-!
# Ranking

Requests are ordered by the rank of their method, then by its name, then by their source, and the
least of them is the one to honor.  A method that was satisfied covers a requested one when it is
at least as strong.
-/

namespace StepUp

/-- The order of requests: rank, name of the method, source. -/
def MethodRequest.precedes (rank₁ : Int32) (r₁ : MethodRequest) (rank₂ : Int32)
    (r₂ : MethodRequest) : Bool :=
  if rank₁ = rank₂ then
    if r₁.method = r₂.method then r₁.source.precedence < r₂.source.precedence
    else r₁.method < r₂.method
  else rank₁ < rank₂

namespace Registry

/-- The strongest request of a list that goes on after `best`. -/
def strongestFrom (reg : Registry) (best : Option (Int32 × MethodRequest)) :
    List MethodRequest → Except ServiceError (Option MethodRequest)
  | [] => .ok (best.map (·.2))
  | r :: rest =>
    match reg.rank r.method with
    | .error e => .error e
    | .ok rank =>
      let better := match best with
        | none => true
        | some (bestRank, current) => r.precedes rank bestRank current
      reg.strongestFrom (if better then some (rank, r) else best) rest

/-- The strongest request of a list, the first of equal ones.  Every method has to be registered. -/
def strongest (reg : Registry) (requests : List MethodRequest) :
    Except ServiceError (Option MethodRequest) :=
  reg.strongestFrom none requests

/-- Whether one of some registered methods is at least as strong as another. -/
def anyAtLeast (reg : Registry) (requested : Method) : List String → Except ServiceError Bool
  | [] => .ok false
  | name :: rest =>
    match reg.require name with
    | .error e => .error e
    | .ok m =>
      if m.isAtLeastAsStrongAs requested then .ok true else reg.anyAtLeast requested rest

end Registry

/-- What a service asks of a ranking. -/
structure Strategy where
  /-- The request of a transaction that has to be honored. -/
  highest : Transaction → Except ServiceError (Option MethodRequest)
  /-- Whether a requested method is covered by what was satisfied. -/
  covers : Text.NameSet → String → Except ServiceError Bool

/-- The ranking of a service where no other is installed: by the ranks of a registry. -/
structure Ranking where
  registry : Registry

namespace Ranking

/-- The request of a transaction that has to be honored. -/
def highest (k : Ranking) (t : Transaction) : Except ServiceError (Option MethodRequest) :=
  k.registry.strongest t.requests

/-- Whether a requested method is covered by what was satisfied; nothing covers no method. -/
def covers (k : Ranking) (satisfied : Text.NameSet) (requested : String) :
    Except ServiceError Bool :=
  if satisfied.isEmpty then .ok false
  else
    match k.registry.require requested with
    | .error e => .error e
    | .ok m => k.registry.anyAtLeast m satisfied.names

/-- The ranking as a service uses it. -/
def strategy (k : Ranking) : Strategy where
  highest := k.highest
  covers := k.covers

end Ranking

end StepUp
