import Stencil.Segmentation
import Stencil.Traced

/-!
# Streams of segments

A stream gives out the segments of a text one at a time and reads no further than it has to. Its
options are checked when the first segment is asked for. After a fault or the last segment it is
at its end for good.
-/

namespace Stencil

/-- What is left of the segments of a text. -/
inductive Stream where
  /-- Nothing was asked for yet. -/
  | unchecked (escape tab : Value) (text : String)
  /-- Reading stands in front of these characters. -/
  | reading (d : Dialect) (s : Segmentation.State) (rest : List Char)
  /-- The text is read, and these segments are left. -/
  | ending (segments : List Segment)

namespace Stream

/-- The stream after its last segment. -/
def ended : Stream := .ending []

/-- The next of the last segments, if any is left. -/
def pullEnding : List Segment → Option Segment × Stream
  | [] => (none, ended)
  | s :: segments => (some s, .ending segments)

/-- Reads on to the next segment. -/
def pullReading (d : Dialect) (s : Segmentation.State) : List Char → Option Segment × Stream
  | [] => pullEnding s.finish
  | c :: cs =>
    match s.read d c with
    | (s', some segment) => (some segment, .reading d s' cs)
    | (s', none) => pullReading d s' cs

/-- The next segment or the end, with the event that the segment gives off. -/
def announce (step : Option Segment × Stream) : Traced (Option Segment) × Stream :=
  (⟨(step.1.bind Event.ofSegment?).toList, .ok step.1⟩, step.2)

/-- Asks for the next segment. -/
def pull : Stream → Traced (Option Segment) × Stream
  | unchecked escape tab text =>
    match Dialect.check escape tab with
    | .error fault => (Traced.fail fault, ended)
    | .ok d => announce (pullReading d .initial text.toList)
  | reading d s rest => announce (pullReading d s rest)
  | ending segments => announce (pullEnding segments)

/-- Asks for `n` segments in a row. -/
def pullMany : Nat → Stream → List (Traced (Option Segment)) × Stream
  | 0, s => ([], s)
  | n + 1, s =>
    let (step, s₁) := s.pull
    let (steps, s₂) := pullMany n s₁
    (step :: steps, s₂)

theorem pullMany_succ (n : Nat) (s : Stream) :
    pullMany (n + 1) s = (s.pull.1 :: (pullMany n s.pull.2).1, (pullMany n s.pull.2).2) := rfl

end Stream

end Stencil
