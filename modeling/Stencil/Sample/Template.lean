import Stencil.Sample.Twister

/-!
# Sample templates

Templates drawn at random that hold every kind of escape and no fault. Static text never ends in the
escape character, which would take the meaning of the slot behind it.
-/

namespace Stencil

/-- A template and the names in its slots, in order. -/
structure Sample where
  source : String
  names : List String
deriving DecidableEq, Repr

namespace Sample

/-- The letters of the alphabet behind the first one, and the underscore. -/
def laterNameStarts : List Char := "bcdefghijklmnopqrstuvwxyz_".toList

/-- The characters in a name besides the first letter of the alphabet. -/
def laterNameChars : List Char := laterNameStarts ++ "0123456789".toList

/-- The characters of plain text besides the first letter of the alphabet. -/
def laterPlainChars : List Char :=
  "bcdefghijklmnopqrstuvwxyzABCDEFGHIJKLMNOPQRSTUVWXYZ0123456789 .,:;!?-_\t\n".toList

/-- An escaped delimiter, and other pieces that look like delimiters and escapes but open no
slot. -/
def escapedOpen : List Char := "\\<%".toList

def laterPitfalls : List (List Char) :=
  ["\\%>".toList, "\\\\".toList, "\\x".toList, "%".toList, ">".toList, "%>".toList, "<x".toList,
    "\r\n".toList]

variable {σ : Type} [DrawSource σ]

/-- Draws a name of one to nine characters. -/
def name : StateM σ (List Char) := do
  let head ← pick 'a' laterNameStarts
  let n ← DrawSource.upTo 8
  return head :: (← times n (pick 'a' laterNameChars))

/-- Draws a piece of static text: a pitfall in three of ten cases, else up to twelve plain
characters. -/
def piece : StateM σ (List Char) := do
  if (← DrawSource.part).isBelow 3 10 then pick escapedOpen laterPitfalls
  else
    let n ← DrawSource.upTo 12
    times n (pick 'a' laterPlainChars)

/-- The characters without the backslashes at their end. -/
def dropLastBackslashes (cs : List Char) : List Char :=
  (cs.reverse.dropWhile (· == '\\')).reverse

/-- Draws static text of up to four pieces. -/
def staticText : StateM σ (List Char) := do
  let n ← DrawSource.upTo 4
  return dropLastBackslashes (← times n piece).flatten

/-- A slot with its name and some padding on either side. -/
def slotText (name : List Char) (padding : Nat) : List Char :=
  let pad := List.replicate padding ' '
  ['<', '%'] ++ pad ++ name ++ pad ++ ['%', '>']

/-- Draws a slot and the static text behind it, together with the name in the slot. -/
def slotAndText : StateM σ (List Char × List Char) := do
  let n ← name
  let padding ← DrawSource.upTo 2
  return (slotText n padding ++ (← staticText), n)

/-- Draws a template of up to five slots. -/
def template : StateM σ Sample := do
  let first ← staticText
  let n ← DrawSource.upTo 5
  let slots ← times n slotAndText
  return ⟨.ofList (first ++ slots.flatMap (·.1)), slots.map fun slot => .ofList slot.2⟩

/-- The templates that a seed gives. -/
def templates (seed : Int) (count : Nat) : List Sample :=
  ((times count template).run (Twister.ofSeed seed)).1

end Sample

end Stencil
