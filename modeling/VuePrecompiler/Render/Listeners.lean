/-!
# Groups of listeners

The handlers of an element, grouped by the name of their event.  The groups
stand in the order in which their names first occur.
-/

namespace VuePrecompiler.Render

/-- An object literal. -/
def object (fields : List String) : String :=
  "\x7b" ++ ",".intercalate fields ++ "\x7d"

/-- An array literal. -/
def array (items : List String) : String :=
  "[" ++ ",".intercalate items ++ "]"

def withComputedKeys (object : String) (computed : List (String × String)) : String :=
  if computed.isEmpty then object
  else
    "_d(" ++ object ++ "," ++
      array (computed.map fun (key, value) => key ++ "," ++ value) ++ ")"

/-- The handlers of an element. -/
structure Listeners where
  /-- The handlers of each named event, in the order in which they run. -/
  named : List (String × List String) := []
  /-- The handlers of events whose name is computed. -/
  computed : List (String × String) := []
deriving Repr, Inhabited

namespace Listeners

/-- Change the handlers of one event; an event without handlers is added at the end. -/
def change (name : String) (f : List String → List String) :
    List (String × List String) → List (String × List String)
  | [] => [(name, f [])]
  | (known, handlers) :: rest =>
    if known == name then (known, f handlers) :: rest
    else (known, handlers) :: change name f rest

/-- Add a handler that runs after the others of its event. -/
def addLast (listeners : Listeners) (name handler : String) : Listeners :=
  { listeners with named := change name (· ++ [handler]) listeners.named }

/-- Add a handler that runs before the others of its event. -/
def addFirst (listeners : Listeners) (name handler : String) : Listeners :=
  { listeners with named := change name (handler :: ·) listeners.named }

def addComputed (listeners : Listeners) (name handler : String) : Listeners :=
  { listeners with computed := listeners.computed ++ [(name, handler)] }

def isEmpty (listeners : Listeners) : Bool :=
  listeners.named.isEmpty && listeners.computed.isEmpty

def handlersCode : List String → String
  | [single] => single
  | several => array several

/-- The object literal of all handlers. -/
def code (listeners : Listeners) : String :=
  withComputedKeys
    (object (listeners.named.map fun (name, handlers) =>
      "\"" ++ name ++ "\":" ++ handlersCode handlers))
    listeners.computed

end Listeners

end VuePrecompiler.Render
