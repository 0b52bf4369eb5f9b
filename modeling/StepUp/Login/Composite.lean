import StepUp.Login.Chain

/-!
# Composite authentications

A chain composes into one authentication.  Of the principals' attributes the last value of a name
stays.  An attribute of one authentication stays as it is; where several have it, the composite has
the list of all elements of their values, each once, in the order of the chain.
-/

namespace StepUp

/-- The elements of a list without those that came before. -/
def distinctValues (done : List Json) : List Json → List Json
  | [] => done
  | v :: rest =>
    if done.any fun d => d.same v then distinctValues done rest
    else distinctValues (done ++ [v]) rest

/-- The list of the elements of two values, each once. -/
def mergedValue (a b : Json) : Json :=
  .arr (distinctValues [] (a.elements ++ b.elements))

namespace Attributes

/-- The attributes with those of another list put over them. -/
def overlay (a b : Attributes) : Attributes :=
  b.entries.foldl (fun acc e => acc.insert e.1 e.2) a

/-- The attributes with those of another list merged into them. -/
def merge (a b : Attributes) : Attributes :=
  b.entries.foldl (fun acc e =>
    match acc.get? e.1 with
    | some v => acc.insert e.1 (mergedValue v e.2)
    | none => acc.insert e.1 e.2) a

end Attributes

/-- One identity made of a chain. -/
structure Composite where
  principal : Principal
  attributes : Attributes
  authenticatedAt : Time.Timestamp
  chained : List Authentication

namespace Composite

/-- The composite as an authentication. -/
def toAuthentication (c : Composite) : Authentication :=
  { principal := c.principal, attributes := c.attributes, authenticatedAt := c.authenticatedAt }

end Composite

/-- The composite of the chain at an instant; an empty chain has none. -/
def Chain.compose (c : Chain) (now : Time.Timestamp) : Except FlowError Composite :=
  match c.authentications with
  | [] => .error .emptyChain
  | first :: rest =>
    let all := first :: rest
    .ok {
      principal := {
        id := first.principal.id
        attributes := all.foldl (fun acc a => acc.overlay a.principal.attributes) .empty }
      attributes := all.foldl (fun acc a => acc.merge a.attributes) .empty
      authenticatedAt := now
      chained := all }

end StepUp
