import Stencil.Text.CaseTable

/-!
# Upper and lower case

The case maps of whole texts. A character may become several, and the capital sigma has a form of
its own at the end of a word.
-/

namespace Stencil.Text

/-- Whether a character lies in one of the ranges. -/
def inRanges (rs : List (Nat × Nat)) (c : Char) : Bool :=
  rs.any fun r => r.1 ≤ c.toNat && c.toNat ≤ r.2

/-- Whether a character has case. -/
def isCased (c : Char) : Bool := inRanges casedRanges c

/-- Whether a character is passed over in the search for the ends of a word. -/
def isCaseIgnorable (c : Char) : Bool := inRanges caseIgnorableRanges c

/-- The other case of one character: its expansion if it has one, else its partner in a run, else
the character itself. -/
def mapCase (expansions : List (Nat × List Nat)) (runs : List CaseRun) (c : Char) : List Char :=
  match expansions.lookup c.toNat with
  | some ns => ns.map Char.ofNat
  | none =>
    match runs.find? (·.covers c.toNat) with
    | some r => [Char.ofNat (c.toNat + r.shift).toNat]
    | none => [c]

/-- The upper case of one character. -/
def upperChar (c : Char) : List Char := mapCase upperExpansions upperRuns c

/-- The lower case of one character on its own. -/
def lowerChar (c : Char) : List Char := mapCase lowerExpansions lowerRuns c

/-- The upper case of a text. -/
def upper (s : String) : String :=
  String.ofList (s.toList.flatMap upperChar)

/-- Whether the nearest character that is not ignorable exists and has case. -/
def meetsCased (cs : List Char) : Bool :=
  (cs.dropWhile isCaseIgnorable).head?.any isCased

/-- A sigma ends a word if a letter stands before it and none follows. Ignorable characters in
between do not matter; `before` lists the earlier characters from the nearest one back. -/
def endsWord (before following : List Char) : Bool :=
  meetsCased before && !meetsCased following

/-- The lower case of the characters `cs` behind the characters `before`, nearest first. -/
def lowerAfter (before : List Char) : List Char → List Char
  | [] => []
  | c :: cs =>
    (if c = '\u03a3' then [if endsWord before cs then '\u03c2' else '\u03c3'] else lowerChar c) ++
      lowerAfter (c :: before) cs

/-- The lower case of a text. -/
def lower (s : String) : String :=
  String.ofList (lowerAfter [] s.toList)

end Stencil.Text
