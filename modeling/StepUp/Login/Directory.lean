import StepUp.Login.Request
import StepUp.Text.KeyedList

/-!
# Directories of target services

The target services that settings define, under their ids.  Of two definitions of one id the later
one counts.
-/

namespace StepUp

/-- Target services under their ids. -/
structure Directory where
  entries : List (String × RegisteredService)

namespace Directory

/-- The directory of a list of definitions. -/
def ofList (services : List RegisteredService) : Directory :=
  ⟨Text.putAll (services.map fun s => (s.id, s))⟩

/-- The service with an id. -/
def find? (d : Directory) (id : String) : Option RegisteredService :=
  Text.find? id d.entries

/-- The number of services. -/
def size (d : Directory) : Nat :=
  d.entries.length

end Directory

end StepUp
