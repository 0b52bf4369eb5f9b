import StepUp.Failure.ServiceError
import StepUp.Json.Reader
import StepUp.Method.Basic
import StepUp.Settings.Basic

/-!
# The registry of methods

The methods that are recognized, no two of one name.  They come from the settings and from a file
that the settings may name, which holds a JSON list of methods.
-/

namespace StepUp

/-- The recognized methods. -/
structure Registry where
  methods : List Method
  distinct : (methods.map (·.name)).Nodup

namespace Registry

/-- The registry without methods. -/
def empty : Registry := ⟨[], by simp⟩

instance : Inhabited Registry := ⟨empty⟩

/-- The number of methods. -/
def size (r : Registry) : Nat :=
  r.methods.length

/-- The method with a name. -/
def get? (r : Registry) (name : String) : Option Method :=
  r.methods.find? fun m => m.name == name

/-- Whether a name is registered. -/
def contains (r : Registry) (name : String) : Bool :=
  (r.get? name).isSome

/-- The method with a name, which has to be registered. -/
def require (r : Registry) (name : String) : Except ServiceError Method :=
  match r.get? name with
  | some m => .ok m
  | none => .error (.unregisteredMethod name)

/-- The rank of a name, which has to be registered. -/
def rank (r : Registry) (name : String) : Except ServiceError Int32 :=
  (r.require name).map (·.rank)

theorem get?_eq_none_iff {r : Registry} {name : String} :
    r.get? name = none ↔ name ∉ r.methods.map (·.name) := by
  simp [get?, List.find?_eq_none]

/-- The registry with one method more, whose name has to be new. -/
def insert (r : Registry) (m : Method) : Except ServiceError Registry :=
  if h : r.get? m.name = none then
    .ok {
      methods := r.methods ++ [m]
      distinct := by
        rw [List.map_append, List.nodup_append]
        refine ⟨r.distinct, by simp, ?_⟩
        intro a ha b hb
        simp only [List.map_cons, List.map_nil, List.mem_singleton] at hb
        subst hb
        exact fun heq => get?_eq_none_iff.1 h (heq ▸ ha) }
  else .error (.invalidConfig (.duplicateMethod m.name))

/-- The registry with the methods of a list more. -/
def insertAll (r : Registry) (methods : List Method) : Except ServiceError Registry :=
  methods.foldlM insert r

/-- The registry of a list of methods. -/
def ofMethods (methods : List Method) : Except ServiceError Registry :=
  empty.insertAll methods

/-- The registry of a JSON text. -/
def ofJsonText (text : String) : Except ServiceError Registry :=
  match Json.parse? text with
  | none => .error (.invalidConfig (.malformed "not JSON"))
  | some v =>
    match Json.readList Method.ofJson v with
    | .ok methods => ofMethods methods
    | .error _ => .error (.invalidConfig (.malformed "not a list of methods"))

/-- The registry of the settings: their methods, and those of the methods file if there is one.
The content of a file that is not there is `none`.  The methods of the file are taken over out of a
registry of their own, whose order is left open. -/
def ofSettingsIn (order : List Method → List Method) (s : Settings) (fileText : Option String) :
    Except ServiceError Registry := do
  let inline ← ofMethods s.methods
  match s.methodsFile with
  | none => return inline
  | some path =>
    match fileText with
    | none => throw (.invalidConfig (.missingMethodsFile path))
    | some text => inline.insertAll (order (← ofJsonText text).methods)

/-- The registry of the settings, the methods of the file in their order. -/
def ofSettings (s : Settings) (fileText : Option String) : Except ServiceError Registry :=
  ofSettingsIn id s fileText

end Registry

end StepUp
