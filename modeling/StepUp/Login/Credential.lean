import StepUp.Text.Quoted

/-!
# Credentials

What was presented for a step.  The secret never appears in the description of a credential.
-/

namespace StepUp

/-- A credential, with or without a secret. -/
structure Credential where
  identifier : String
  secret : Option String := none
deriving DecidableEq

/-- The credential for a log: the identifier in full, and only whether there is a secret. -/
def Credential.describe (c : Credential) : String :=
  "Credential \x7b identifier: " ++ Text.quoted c.identifier ++ ", secret: "
    ++ (if c.secret.isSome then "Some(SecretBox<str>([REDACTED]))" else "None") ++ " \x7d"

end StepUp
