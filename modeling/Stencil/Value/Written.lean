import Stencil.Decimal.Layout
import Stencil.Host
import Stencil.Text.Quoted

/-!
# Written values

A value has two written forms. Its literal tells texts from other values by their quotes; its
shown form, which fills a slot, differs from the literal for texts, and for objects if their host
says so.
-/

namespace Stencil

/-- Floating-point numbers have the fewest digits that read back, positionally from a ten
thousandth up to sixteen digits before the point, else with a signed exponent of two digits. -/
def floatLayout : Decimal.Layout where
  leastFixed := -4
  greatestFixed := 15
  wholeDigits := ['0']
  exponentWidth := 2
  notANumber := "nan"
  infinity := "inf"

namespace Host

def commaList (parts : List String) : String :=
  ", ".intercalate parts

variable (host : Host)

mutual

/-- The literal of a value. A tuple of one has a comma behind its element, and a record leaves
out a field without a name. -/
def literal : Value → String
  | .none => "None"
  | .bool true => "True"
  | .bool false => "False"
  | .int i => toString i
  | .float x => floatLayout.ofBits x.toBits
  | .text s => Text.quoted s
  | .bytes bs => Text.quotedBytes bs
  | .list vs => "[" ++ commaList (literals vs) ++ "]"
  | .tuple [v] => "(" ++ literal v ++ ",)"
  | .tuple vs => "(" ++ commaList (literals vs) ++ ")"
  | .dict entries => "\x7b" ++ commaList (entryLiterals entries) ++ "\x7d"
  | .record fields => "namespace(" ++ commaList (fieldLiterals fields) ++ ")"
  | .handler h => host.handlerLabel h
  | .object id => host.objectLiteral id

/-- The literals of some values in order. -/
def literals : List Value → List String
  | [] => []
  | v :: vs => literal v :: literals vs

/-- The literals of the entries of a dictionary. -/
def entryLiterals : List (Value × Value) → List String
  | [] => []
  | (k, v) :: entries => (literal k ++ ": " ++ literal v) :: entryLiterals entries

/-- The literals of the named fields of a record. -/
def fieldLiterals : List (String × Value) → List String
  | [] => []
  | (name, v) :: fields =>
    if name = "" then fieldLiterals fields
    else (name ++ "=" ++ literal v) :: fieldLiterals fields

end

/-- The form in which a value fills a slot. -/
def shown : Value → String
  | .text s => s
  | .object id => host.objectText id
  | v => host.literal v

@[simp] theorem shown_text (s : String) : host.shown (.text s) = s := rfl

end Host

end Stencil
