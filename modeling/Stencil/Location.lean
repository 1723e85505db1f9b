import Stencil.Title

/-!
# Locations in a template

A location names the character that is read next by its row, its column and its offset, each
counted from one. Reading a character moves the location; a location that heads a message is
written `row:column`, behind the template's title unless that is empty. `afterAll_origin` says
where the reading of a text ends without following it step by step.
-/

namespace Stencil

/-- The row, the column and the offset of the character that is read next. -/
@[ext] structure Location where
  row : Int
  column : Int
  offset : Int
deriving DecidableEq, Repr

namespace Location

/-- Every template starts in row one, column one. -/
def origin : Location := ⟨1, 1, 1⟩

/-- The location after one character. A line feed starts the next row, a carriage return goes
back to the first column of the same row, and a tab is `tab` columns wide. -/
def after (tab : Int) (l : Location) (c : Char) : Location :=
  if c = '\n' then ⟨l.row + 1, 1, l.offset + 1⟩
  else if c = '\r' then ⟨l.row, 1, l.offset + 1⟩
  else if c = '\t' then ⟨l.row, l.column + tab, l.offset + 1⟩
  else ⟨l.row, l.column + 1, l.offset + 1⟩

/-- The location after a run of characters. -/
def afterAll (tab : Int) (l : Location) (cs : List Char) : Location :=
  cs.foldl (after tab) l

/-- The location after one piece of text that is read as a unit. An empty piece does not move,
and a piece of several characters takes the room of one ordinary character. -/
def afterPiece (tab : Int) (l : Location) : List Char → Location
  | [] => l
  | [c] => l.after tab c
  | _ :: _ :: _ => ⟨l.row, l.column + 1, l.offset + 1⟩

/-- The form `row:column`, in which messages point at a location. -/
def label (l : Location) : String :=
  s!"{l.row}:{l.column}"

/-- The label behind the title of its template, which is left out if it is empty. -/
def labelIn (template : Title) (l : Location) : String :=
  if template = some "" then l.label else s!"{template.written}:{l.label}"

/-- A message about a location in a template. -/
def diagnostic (template : Title) (l : Location) (message : String) : String :=
  s!"{l.labelIn template}: {message}"

/-- The form that shows all three counts. -/
def describe (l : Location) : String :=
  s!"Position(row={l.row}, col={l.column}, pos={l.offset})"

@[simp] theorem after_offset (tab : Int) (l : Location) (c : Char) :
    (l.after tab c).offset = l.offset + 1 := by
  grind [after]

@[simp] theorem afterAll_nil (tab : Int) (l : Location) : l.afterAll tab [] = l := rfl

@[simp] theorem afterAll_cons (tab : Int) (l : Location) (c : Char) (cs : List Char) :
    l.afterAll tab (c :: cs) = (l.after tab c).afterAll tab cs := rfl

theorem afterAll_append (tab : Int) (l : Location) (cs ds : List Char) :
    l.afterAll tab (cs ++ ds) = (l.afterAll tab cs).afterAll tab ds := by
  simp [afterAll]

/-- The number of columns that a character takes. -/
def width (tab : Int) (c : Char) : Int := if c = '\t' then tab else 1

/-- The number of columns that some characters take. -/
def widths (tab : Int) (cs : List Char) : Int := cs.foldr (fun c n => width tab c + n) 0

/-- Whether a character sends the column back to one. -/
def isReturn (c : Char) : Bool := c == '\n' || c == '\r'

/-- The characters behind the last one that sends the column back, from the last one on. -/
def lastLine (cs : List Char) : List Char := cs.reverse.takeWhile fun c => !isReturn c

/-- The location behind a text: a row for each line feed, and the columns of the last line. -/
def behind (tab : Int) (cs : List Char) : Location where
  row := 1 + cs.count '\n'
  column := 1 + widths tab (lastLine cs)
  offset := 1 + cs.length

theorem lastLine_concat (cs : List Char) (c : Char) :
    lastLine (cs ++ [c]) = if isReturn c then [] else c :: lastLine cs := by
  simp only [lastLine, List.reverse_append, List.reverse_singleton, List.singleton_append,
    List.takeWhile_cons]
  cases isReturn c <;> rfl

theorem after_row (tab : Int) (l : Location) (c : Char) :
    (l.after tab c).row = l.row + if c = '\n' then 1 else 0 := by
  grind [after]

theorem after_column (tab : Int) (l : Location) (c : Char) :
    (l.after tab c).column = if isReturn c then 1 else l.column + width tab c := by
  grind [after, isReturn, width]

@[simp] theorem behind_nil (tab : Int) : behind tab [] = origin := rfl

/-- One more character moves the location behind a text like any other one. -/
theorem behind_concat (tab : Int) (cs : List Char) (c : Char) :
    behind tab (cs ++ [c]) = (behind tab cs).after tab c := by
  apply Location.ext
  · simp only [after_row, behind, List.count_append, List.count_singleton, beq_iff_eq]
    split <;> omega
  · simp only [after_column, behind, lastLine_concat]
    cases isReturn c with
    | true => rfl
    | false =>
        simp only [Bool.false_eq_true, if_false, widths, List.foldr_cons]
        omega
  · simp only [after_offset, behind, List.length_append, List.length_singleton]
    omega

/-- Reading a text from the start ends behind it. -/
theorem afterAll_origin (tab : Int) (cs : List Char) :
    origin.afterAll tab cs = behind tab cs := by
  induction h : cs.reverse generalizing cs with
  | nil =>
      rw [List.reverse_eq_nil_iff.mp h]
      rfl
  | cons c rs ih =>
      have hcs : cs = rs.reverse ++ [c] := by
        rw [← List.reverse_cons, ← h, List.reverse_reverse]
      rw [hcs, afterAll_append, ih rs.reverse (List.reverse_reverse rs), behind_concat]
      rfl

end Location

end Stencil
