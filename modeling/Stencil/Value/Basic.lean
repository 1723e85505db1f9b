/-!
# Values

The values that a template is filled with, and the kinds they come in. Most of them are plain data.
The others are the default handlers and the objects that a host brings along, which are known by a
number alone.
-/

namespace Stencil

/-- The handlers that stand behind every list of providers. -/
inductive Handler where
  | text
  | upper
  | lower
  | strip
  | join
deriving DecidableEq, Repr

namespace Handler

def all : List Handler := [text, upper, lower, strip, join]

/-- The name under which templates find a handler. -/
def name : Handler → String
  | text => "str"
  | upper => "upper"
  | lower => "lower"
  | strip => "strip"
  | join => "join"

def named? (s : String) : Option Handler :=
  all.find? (·.name == s)

@[simp] theorem named?_name (h : Handler) : named? h.name = some h := by
  cases h <;> rfl

end Handler

/-- The kinds of values, among them the kind of kinds. The kind of an object is up to its host. -/
inductive Value.Kind where
  | none
  | bool
  | int
  | float
  | text
  | bytes
  | list
  | tuple
  | dict
  | record
  | kind
  | textMethod
  | function
  | object (id : Nat)
deriving DecidableEq, Repr

/-- What a provider binds to a name. The entries of a dictionary and the fields of a record keep
the order in which they were first written. An object is a value of none of the other forms. -/
inductive Value where
  | none
  | bool (b : Bool)
  | int (i : Int)
  | float (x : Float)
  | text (s : String)
  | bytes (bs : List UInt8)
  | list (vs : List Value)
  | tuple (vs : List Value)
  | dict (entries : List (Value × Value))
  | record (fields : List (String × Value))
  | handler (h : Handler)
  | object (id : Nat)

namespace Value

/-- The kind of a value. The handler that writes texts is the kind of texts itself. -/
def kind : Value → Kind
  | none => .none
  | bool _ => .bool
  | int _ => .int
  | float _ => .float
  | text _ => .text
  | bytes _ => .bytes
  | list _ => .list
  | tuple _ => .tuple
  | dict _ => .dict
  | record _ => .record
  | handler .text => .kind
  | handler .join => .function
  | handler _ => .textMethod
  | object id => .object id

/-- Whether a value is the text `s`. -/
def isText (s : String) : Value → Bool
  | text t => t == s
  | _ => false

end Value

end Stencil
