import Stencil.Dialect
import Stencil.Segment

/-!
# Reading a template into segments

A template is read one character at a time. The state remembers the zone, the withheld characters,
the content collected so far, where that content began and where reading is. A segment comes out
whenever the delimiter of the zone is complete, and the end of the text yields the last ones.

## Implementation notes

`State.readAll` returns the state after a text together with the segments that came out on the
way, so reading in two steps is reading the parts one after the other.
-/

namespace Stencil

namespace Segmentation

/-- How far the reading of a template has come. -/
@[ext] structure State where
  zone : Zone
  held : List Char
  content : String
  start : Location
  here : Location
deriving DecidableEq, Repr

namespace State

/-- Reading begins with static text. -/
def initial : State := ⟨.static, [], "", .origin, .origin⟩

/-- Reads one character. A complete delimiter yields the segment before it, and the next content
begins right behind it. -/
def read (d : Dialect) (s : State) (c : Char) : State × Option Segment :=
  let here := s.here.after d.tab c
  let reaction := s.zone.feed [d.escape] s.held [c]
  let content := s.content ++ String.ofList reaction.released
  if reaction.found then
    (⟨s.zone.other, [], "", here, here⟩, some (s.zone.segment content s.start))
  else
    (⟨s.zone, reaction.held, content, s.start, here⟩, none)

/-- Reads a run of characters and collects the segments that come out. -/
def readAll (d : Dialect) (s : State) : List Char → State × List Segment
  | [] => (s, [])
  | c :: cs =>
    let (s₁, segment?) := s.read d c
    let (s₂, segments) := readAll d s₁ cs
    (s₂, segment?.toList ++ segments)

/-- The content with the withheld characters, which nothing can complete at the end of a text. -/
def partialContent (s : State) : String :=
  s.content ++ String.ofList s.held

/-- The segments that the end of the text yields. A slot that is still open becomes an error, with
an empty static text behind it. -/
def finish (s : State) : List Segment :=
  match s.zone with
  | .static => [Segment.static s.partialContent s.start]
  | .slot => [Segment.unclosed s.partialContent s.start, Segment.static "" s.here]

@[simp] theorem readAll_nil (d : Dialect) (s : State) : s.readAll d [] = (s, []) := rfl

theorem readAll_cons (d : Dialect) (s : State) (c : Char) (cs : List Char) :
    s.readAll d (c :: cs) =
      (((s.read d c).1.readAll d cs).1,
        (s.read d c).2.toList ++ ((s.read d c).1.readAll d cs).2) := rfl

/-- A text in two parts is read one part after the other. -/
theorem readAll_append (d : Dialect) (s : State) (cs ds : List Char) :
    s.readAll d (cs ++ ds) =
      (((s.readAll d cs).1.readAll d ds).1,
        (s.readAll d cs).2 ++ ((s.readAll d cs).1.readAll d ds).2) := by
  induction cs generalizing s with
  | nil => simp
  | cons c cs ih => simp [readAll_cons, ih]

theorem readAll_concat (d : Dialect) (s : State) (cs : List Char) (c : Char) :
    s.readAll d (cs ++ [c]) =
      (((s.readAll d cs).1.read d c).1,
        (s.readAll d cs).2 ++ ((s.readAll d cs).1.read d c).2.toList) := by
  rw [readAll_append, readAll_cons, readAll_nil, List.append_nil]

@[simp] theorem read_here (d : Dialect) (s : State) (c : Char) :
    (s.read d c).1.here = s.here.after d.tab c := by
  simp only [read]
  split <;> rfl

theorem readAll_here (d : Dialect) (s : State) (cs : List Char) :
    (s.readAll d cs).1.here = s.here.afterAll d.tab cs := by
  induction cs generalizing s with
  | nil => rfl
  | cons c cs ih => simp [readAll_cons, ih]

end State

end Segmentation

/-- The segments of a text in a dialect. -/
def Dialect.segments (d : Dialect) (text : String) : List Segment :=
  let (s, segments) := Segmentation.State.initial.readAll d text.toList
  segments ++ s.finish

theorem Dialect.segments_eq (d : Dialect) (text : String) :
    d.segments text =
      (Segmentation.State.initial.readAll d text.toList).2 ++
        (Segmentation.State.initial.readAll d text.toList).1.finish := rfl

end Stencil
