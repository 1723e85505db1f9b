import Stencil.Fault
import Stencil.Text.Blank

/-!
# Dialects

A dialect fixes the escape character and the width of a tab. Dialects are built from values that
callers supply, and the check names the first thing that is wrong with them.
-/

namespace Stencil

/-- The characters that delimiters are made of. -/
def isDelimiter (c : Char) : Bool :=
  c == '<' || c == '%' || c == '>'

/-- An escape character that no delimiter uses and that is not blank, and a tab width of at least
one column. -/
@[ext] structure Dialect where
  escape : Char
  tab : Int
  escape_free : isDelimiter escape = false
  escape_visible : Text.isBlank escape = false
  one_le_tab : 1 ≤ tab

namespace Dialect

/-- The escape of a caller who gives none. -/
def defaultEscape : Value := .text "\\"

/-- The tab width of a caller who gives none. -/
def defaultTab : Value := .int 1

/-- The escape character of a supplied value. -/
def checkEscape (escape : Value) :
    Except Fault { c : Char // isDelimiter c = false ∧ Text.isBlank c = false } :=
  match escape with
  | .text s =>
    match s.toList with
    | [c] =>
      if h : isDelimiter c = false ∧ Text.isBlank c = false then .ok ⟨c, h⟩
      else .error (.escapeReserved c)
    | _ => .error (.escapeLength escape)
  | _ => .error (.escapeLength escape)

/-- The tab width of a supplied value. -/
def checkTab (tab : Value) : Except Fault { i : Int // 1 ≤ i } :=
  match tab with
  | .int i => if h : 1 ≤ i then .ok ⟨i, h⟩ else .error (.tabWidth tab)
  | _ => .error (.tabWidth tab)

/-- The dialect of supplied values; a fault of the escape comes before one of the tab. -/
def check (escape tab : Value) : Except Fault Dialect :=
  match checkEscape escape with
  | .error fault => .error fault
  | .ok c =>
    match checkTab tab with
    | .error fault => .error fault
    | .ok i => .ok ⟨c.1, i.1, c.2.1, c.2.2, i.2⟩

/-- The dialect of a caller who gives no options: the escape is a backslash, and a tab is one column
wide. -/
def standard : Dialect := ⟨'\\', 1, by decide, by decide, by decide⟩

end Dialect

end Stencil
