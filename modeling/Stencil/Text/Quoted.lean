import Stencil.Text.Printable

/-!
# Quoted texts

A text or a run of bytes in quotes. The quote is the single one unless the content holds a single
quote and no double one. The backslash, the quote in use and whatever is not printable are
written as escapes.
-/

namespace Stencil.Text

def singleQuote : Char := '\x27'

def doubleQuote : Char := '\x22'

/-- The quote that goes around some characters. -/
def quoteFor (cs : List Char) : Char :=
  if cs.contains singleQuote && !cs.contains doubleQuote then doubleQuote else singleQuote

/-- A number in base sixteen, in lower case, with at least `width` digits. -/
def hexDigits (width n : Nat) : List Char :=
  let ds := Nat.toDigits 16 n
  List.replicate (width - ds.length) '0' ++ ds

/-- The escape of a character by its number, with the fewest of two, four or eight digits. -/
def numericEscape (n : Nat) : List Char :=
  if n ≤ 0xFF then '\\' :: 'x' :: hexDigits 2 n
  else if n ≤ 0xFFFF then '\\' :: 'u' :: hexDigits 4 n
  else '\\' :: 'U' :: hexDigits 8 n

/-- A character as it is written between quotes `q`; `plain` says which ones need no escape. -/
def quotedChar (plain : Char → Bool) (q c : Char) : List Char :=
  if c = q || c = '\\' then ['\\', c]
  else if c = '\n' then ['\\', 'n']
  else if c = '\r' then ['\\', 'r']
  else if c = '\t' then ['\\', 't']
  else if plain c then [c]
  else numericEscape c.toNat

/-- The characters between the quotes that suit them. -/
def quotedChars (plain : Char → Bool) (cs : List Char) : List Char :=
  let q := quoteFor cs
  q :: cs.flatMap (quotedChar plain q) ++ [q]

/-- A text in quotes. -/
def quoted (s : String) : String :=
  String.ofList (quotedChars isPrintable s.toList)

/-- Whether a byte is shown as the ASCII character that it codes. -/
def isPlainByte (c : Char) : Bool :=
  0x20 ≤ c.toNat && c.toNat ≤ 0x7E

/-- Bytes in quotes, behind the letter that tells them from a text. -/
def quotedBytes (bs : List UInt8) : String :=
  String.ofList ('b' :: quotedChars isPlainByte (bs.map fun b => Char.ofNat b.toNat))

end Stencil.Text
