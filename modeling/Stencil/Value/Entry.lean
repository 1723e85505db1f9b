import Stencil.Decimal.Double
import Stencil.Value.Basic

/-!
# Entries of dictionaries and records

A key that is written again keeps its first place and takes the last value. Keys are compared by
what they mean: numbers by their amount, so that a whole number, a truth value and a float can be
the same key. The float that is not a number is a new key each time. Handlers and objects are the
same keys as themselves only.
-/

namespace Stencil.Value

/-- A finite double in grains. -/
def grains? (x : Float) : Option Int :=
  let bits := x.toBits
  if Decimal.exponentField bits = Decimal.specialExponent then Option.none
  else
    let n : Int := Decimal.grains bits
    some (if Decimal.isNegative bits then -n else n)

/-- A whole number in grains. -/
def wholeGrains (i : Int) : Int := i * (1 <<< Decimal.grainsLog2 : Nat)

/-- The amount of a finite number, in grains. -/
def amount? : Value → Option Int
  | bool b => some (wholeGrains b.toInt)
  | int i => some (wholeGrains i)
  | float x => grains? x
  | _ => Option.none

mutual

/-- Whether two keys name the same entry. -/
def sameKey : Value → Value → Bool
  | none, none => true
  | text s, text t => s == t
  | bytes bs, bytes cs => bs == cs
  | tuple vs, tuple ws => sameKeys vs ws
  | float x, float y => x == y
  | handler h, handler k => h == k
  | object i, object j => i == j
  | v, w =>
    match v.amount?, w.amount? with
    | some a, some b => a == b
    | _, _ => false

/-- Whether two tuples agree as keys, element by element. -/
def sameKeys : List Value → List Value → Bool
  | [], [] => true
  | v :: vs, w :: ws => sameKey v w && sameKeys vs ws
  | _, _ => false

end

/-- Writes an entry: over the first one with the same key, else behind the others. -/
def putEntry {κ : Type} (same : κ → κ → Bool) (k : κ) (v : Value) :
    List (κ × Value) → List (κ × Value)
  | [] => [(k, v)]
  | (k', v') :: entries =>
    if same k' k then (k', v) :: entries else (k', v') :: putEntry same k v entries

/-- The entries that remain when the given ones are written in order. -/
def putAll {κ : Type} (same : κ → κ → Bool) (entries : List (κ × Value)) : List (κ × Value) :=
  entries.foldl (fun written e => putEntry same e.1 e.2 written) []

/-- The dictionary with the given entries. -/
def ofEntries (entries : List (Value × Value)) : Value :=
  dict (putAll sameKey entries)

/-- The record with the given fields. -/
def ofFields (fields : List (String × Value)) : Value :=
  record (putAll (· == ·) fields)

end Stencil.Value
