import Stencil.Value.Basic

/-!
# Hosts

A template is rendered for a host, the program that the values come from. The host says what a name
behind a dot selects in a value, and answers for its objects. A mapping is asked for its keys only,
every other value for its members only.

## Implementation notes

The answers of a host are fixed: asking changes nothing, and the host does not fail in a way of its
own.
-/

namespace Stencil

/-- What a host knows about values. -/
structure Host where
  /-- What a name selects in a value that is no mapping. -/
  member? : Value → String → Option Value
  /-- What an object has under a key, if it is a mapping. -/
  entries? : Nat → Option (String → Option Value)
  /-- How an object fills a slot. -/
  objectText : Nat → String
  /-- How an object is written among other values. -/
  objectLiteral : Nat → String
  /-- The name of the kind of an object. -/
  className : Nat → String
  /-- The written form of the kind of an object. -/
  classLabel : Nat → String
  /-- Where the handler that joins texts lies in memory, as it is written. -/
  joinAddress : String

namespace Host

/-- A host without objects, whose values have no members. It will do where nobody asks for them. -/
def bare : Host where
  member? _ _ := none
  entries? _ := none
  objectText _ := ""
  objectLiteral _ := ""
  className _ := ""
  classLabel _ := ""
  joinAddress := "0x0"

variable (host : Host)

/-- What a name behind a dot selects. -/
def select? (v : Value) (name : String) : Option Value :=
  match v with
  | .dict entries => (entries.find? (·.1.isText name)).map (·.2)
  | .object id =>
    match host.entries? id with
    | some value? => value? name
    | none => host.member? v name
  | _ => host.member? v name

/-- The name of a kind in messages, which for records says where they are at home. -/
def kindName : Value.Kind → String
  | .none => "NoneType"
  | .bool => "bool"
  | .int => "int"
  | .float => "float"
  | .text => "str"
  | .bytes => "bytes"
  | .list => "list"
  | .tuple => "tuple"
  | .dict => "dict"
  | .record => "types.SimpleNamespace"
  | .kind => "type"
  | .textMethod => "method_descriptor"
  | .function => "function"
  | .object id => host.className id

/-- The written form of a kind. -/
def kindLabel : Value.Kind → String
  | .object id => host.classLabel id
  | k => s!"<class '{host.kindName k}'>"

/-- The written form of a handler. -/
def handlerLabel : Handler → String
  | .text => host.kindLabel .text
  | .join => s!"<function _join at {host.joinAddress}>"
  | h => s!"<method '{h.name}' of 'str' objects>"

end Host

end Stencil
