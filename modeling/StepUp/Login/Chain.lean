import StepUp.Failure.FlowError
import StepUp.Login.Authentication
import StepUp.Login.Credential

/-!
# Chains of authentications

The authentications of one attempt, all of one principal, with the credentials that were presented
for them.  The chain composes into one authentication that carries the attributes of all.
-/

namespace StepUp

/-- The authentications and credentials of an attempt, in the order in which they came. -/
structure Chain where
  credentials : List (String × Credential) := []
  authentications : List Authentication := []

namespace Chain

/-- The chain in the beginning. -/
def empty : Chain := {}

/-- Whether nothing has been chained. -/
def isEmpty (c : Chain) : Bool :=
  c.authentications.isEmpty

/-- The number of authentications. -/
def length (c : Chain) : Nat :=
  c.authentications.length

/-- Why a principal does not fit the chain: the first authentication of another one. -/
def mismatch? (c : Chain) (p : Principal) : Option FlowError :=
  (c.authentications.find? fun a => !a.principal.sameIdentity p).map fun a =>
    .identityMismatch a.principal.id p.id

/-- The credentials with one under a source: in the place of the one there, or at the end. -/
def putCredential (source : String) (cred : Credential) :
    List (String × Credential) → List (String × Credential)
  | [] => [(source, cred)]
  | (s, c) :: rest =>
    if s == source then (s, cred) :: rest else (s, c) :: putCredential source cred rest

/-- The chain with an authentication more, and with its credential under a source if there is one.
An authentication of another principal is refused. -/
def append (c : Chain) (a : Authentication) (credential : Option (String × Credential)) :
    Except FlowError Chain :=
  match c.mismatch? a.principal with
  | some e => .error e
  | none =>
    .ok {
      credentials := match credential with
        | some (source, cred) => putCredential source cred c.credentials
        | none => c.credentials
      authentications := c.authentications ++ [a] }

/-- The credential under a source. -/
def credential? (c : Chain) (source : String) : Option Credential :=
  (c.credentials.find? fun e => e.1 == source).map (·.2)

/-- The credential that was chained first. -/
def primaryCredential? (c : Chain) : Option Credential :=
  c.credentials.head?.map (·.2)

/-- The methods that any of the authentications satisfied. -/
def satisfiedMethods (c : Chain) : Text.NameSet :=
  .ofList (c.authentications.flatMap fun a => a.satisfiedMethods.names)

end Chain

end StepUp
