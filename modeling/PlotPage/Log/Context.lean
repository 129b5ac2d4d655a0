import PlotPage.Value.Scalar

/-!
# Log contexts

The fields that every record carries until they are removed, in the order in which they were first
added.  A field that is added again keeps its place and takes the new value.
-/

namespace PlotPage

/-- The fields of a context, each with a name of its own. -/
structure LogContext where
  fields : List (String × Value) := []

namespace LogContext

def empty : LogContext := {}

def store (name : String) (value : Value) : List (String × Value) → List (String × Value)
  | [] => [(name, value)]
  | (k, v) :: rest => if k = name then (k, value) :: rest else (k, v) :: store name value rest

def add (c : LogContext) (name : String) (value : Value) : LogContext :=
  ⟨store name value c.fields⟩

def push (c : LogContext) (fields : List (String × Value)) : LogContext :=
  fields.foldl (fun c f => c.add f.1 f.2) c

/-- Removes the fields with the given names; names that no field has are passed over. -/
def pop (c : LogContext) (names : List String) : LogContext :=
  ⟨c.fields.filter fun f => !names.contains f.1⟩

def get? (c : LogContext) (name : String) : Option Value :=
  (c.fields.find? fun f => f.1 = name).map Prod.snd

/-- The names of entries, each of which must be a text. -/
def namedFields : List (Value × Value) → Except Fault (List (String × Value))
  | [] => .ok []
  | (.text name, v) :: rest => do return (name, v) :: (← namedFields rest)
  | _ :: _ => .error (.outside .notKey)

/-- The fields of a value that is a mapping with texts as keys. -/
def fieldsOf : Value → Except Fault (List (String × Value))
  | .map entries _ => namedFields entries
  | _ => .error (.outside .notContainer)

/-- Adds the fields of a value. -/
def pushValue (c : LogContext) (v : Value) : Except Fault LogContext := do
  return c.push (← fieldsOf v)

end LogContext

end PlotPage
