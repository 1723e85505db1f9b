import Mathlib.Data.List.Induction
import Stencil.Proofs.Positions
import Stencil.Proofs.Shape

/-!
# Texts that go on

What becomes of the segments of a text when more text follows it. Reading goes on from the state
behind the first text, so the segments that came out before are there to stay, and the segment that
was open keeps its start. At a clean cut, in static text and with nothing withheld, the second text
is read as it is on its own. Main statements: closed segments never change, and behind a clean cut
the segments of the second text follow, moved to where the first text ends.

## Implementation notes

A location in the second text is moved with the text in front of it at hand, since a return in that
text makes the column independent of where the first text ends.
-/

namespace Stencil

open Segmentation

namespace Location

/-- A location behind the text `before`, if this text begins at `here`, not at the origin. Columns
are counted on from `here` up to the first return. -/
def moved (l here : Location) (before : List Char) : Location where
  row := l.row + here.row - 1
  column := if before.any isReturn then l.column else l.column + here.column - 1
  offset := l.offset + here.offset - 1

theorem origin_moved (here : Location) : origin.moved here [] = here := by
  have columns (n : Int) : 1 + n - 1 = n := by omega
  apply Location.ext <;> simp [moved, origin, columns]

/-- One more character moves a location and its moved one alike. Only a return makes the column
forget where the text began, and it stays forgotten. -/
theorem after_moved (tab : Int) (here : Location) (before : List Char) (l : Location) (c : Char) :
    (l.moved here before).after tab c = (l.after tab c).moved here (before ++ [c]) := by
  have returns : (before ++ [c]).any isReturn = (before.any isReturn || isReturn c) := by simp
  apply Location.ext
  · simp only [after_row, moved]
    omega
  · simp only [after_column, moved, returns]
    cases isReturn c with
    | true => simp
    | false =>
        simp only [Bool.or_false, Bool.false_eq_true, if_false]
        split <;> omega
  · simp only [after_offset, moved]
    omega

/-- The location behind two texts is the one behind the second text, moved behind the first. -/
theorem behind_append (tab : Int) (front cs : List Char) :
    behind tab (front ++ cs) = (behind tab cs).moved (behind tab front) cs := by
  induction cs using List.reverseRecOn with
  | nil => rw [List.append_nil, behind_nil, origin_moved]
  | append_singleton cs c ih =>
      rw [← List.append_assoc, behind_concat, ih, after_moved, behind_concat]

end Location

namespace Segment

variable {text : String} {tab : Int} {front before : List Char}

/-- A segment of a text that begins at `here` and not at the origin. -/
def moved (here : Location) (text : String) (s : Segment) : Segment :=
  { s with start := s.start.moved here (s.textBefore text) }

/-- A segment that starts behind a part of its text starts behind this part and the front text. -/
theorem moved_eq (front : List Char) {s : Segment} (part : before <+: text.toList)
    (start : s.start = .behind tab before) :
    s.moved (.behind tab front) text = { s with start := .behind tab (front ++ before) } := by
  rw [moved, textBefore_eq part start, start, Location.behind_append]

end Segment

namespace Pieces

variable {d : Dialect} {text : String} {before cs : List Char} {z : Zone} {segments : List Segment}

/-- More text in front moves the pieces of a text, also the static text behind an error, which
starts behind all of the text. -/
theorem moved (h : Pieces d before z cs segments) (front : List Char)
    (cut : text.toList = before ++ cs) :
    Pieces d (front ++ before) z cs
      (segments.map (Segment.moved (.behind d.tab front) text)) := by
  induction h with
  | @closed before cs m rest z segments phrase pieces ih =>
      have later := ih (by simpa using cut)
      rw [← List.append_assoc, ← List.append_assoc] at later
      rw [List.map_cons, Segment.moved_eq front ⟨_, cut.symm⟩ (z.segment_start _ _)]
      cases z with
      | static => exact .closed phrase later
      | slot => exact .closed phrase later
  | @static before cs m w phrase withheld =>
      rw [List.map_singleton, Segment.moved_eq front ⟨_, cut.symm⟩ rfl]
      exact .static phrase withheld
  | @slot before cs m w phrase withheld =>
      have whole : before ++ cs ++ w <+: text.toList := ⟨[], by simp [cut]⟩
      rw [List.map_cons, List.map_singleton, Segment.moved_eq front ⟨_, cut.symm⟩ rfl,
        Segment.moved_eq front whole rfl, ← List.append_assoc, ← List.append_assoc]
      exact .slot phrase withheld

/-- Pieces of static text, read from a state that has collected some content behind more text: the
first segment begins where this content did, and the others are moved, since behind the first
delimiter the collected content plays no part any more. -/
theorem exists_yield_moved (h : Pieces d before .static cs segments)
    (cut : text.toList = before ++ cs) (front : List Char) (content : String)
    (start : Location) :
    ∃ first rest, segments = first :: rest ∧
      State.yield d ⟨.static, [], content, start, .behind d.tab (front ++ before)⟩ cs =
        .static (content ++ first.content) start ::
          rest.map (Segment.moved (.behind d.tab front) text) := by
  cases h with
  | @closed before cs m rest z segments phrase pieces =>
      have whole : text.toList = before ++ cs ++ Zone.static.delimiter ++ rest := by
        simpa using cut
      have later := (pieces.moved front whole).yield_eq
      rw [← List.append_assoc, ← List.append_assoc] at later
      refine ⟨_, _, rfl, ?_⟩
      rw [State.yield_closed d phrase, later]
      rfl
  | @static before cs m w phrase withheld =>
      refine ⟨_, _, rfl, ?_⟩
      rw [State.yield_cut d phrase withheld]
      simp [State.finish, State.partialContent, Segment.static, String.append_assoc]

end Pieces

namespace Segmentation.State

/-- Reading from the start stands behind what was read. -/
theorem readAll_initial_here (d : Dialect) (cs : List Char) :
    (initial.readAll d cs).1.here = .behind d.tab cs := by
  rw [readAll_here]
  exact Location.afterAll_origin d.tab cs

/-- Whatever follows, the first segment that a state yields starts where its content began. -/
theorem head?_yield (d : Dialect) (s : State) (cs : List Char) :
    (s.yield d cs).head?.map (·.start) = some s.start := by
  induction cs generalizing s with
  | nil =>
      rw [yield, readAll_nil, finish]
      cases s.zone <;> rfl
  | cons c cs ih =>
      rw [yield_cons]
      rcases read_cases d s c with ⟨content, closed⟩ | ⟨held, content, inner⟩
      · simp [closed]
      · rw [inner]
        exact ih ⟨s.zone, held, content, s.start, s.here.after d.tab c⟩

end Segmentation.State

namespace Dialect

/-- The state of reading behind a text. -/
def stateBehind (d : Dialect) (text : String) : State :=
  (State.initial.readAll d text.toList).1

/-- The segments that come out before the end of a text. -/
def closedSegments (d : Dialect) (text : String) : List Segment :=
  (State.initial.readAll d text.toList).2

/-- A text that ends in static text, but not in the beginning of an escape or a delimiter. -/
def EndsClean (d : Dialect) (text : String) : Prop :=
  (d.stateBehind text).zone = .static ∧ (d.stateBehind text).held = []

instance (d : Dialect) (text : String) : Decidable (d.EndsClean text) :=
  inferInstanceAs (Decidable (_ ∧ _))

/-- A text of complete tokens without an opener ends clean. -/
theorem endsClean_of_phrase {d : Dialect} {cs m : List Char} (h : Phrase d.escape .static cs m) :
    d.EndsClean (.ofList cs) := by
  rw [EndsClean, stateBehind, String.toList_ofList, State.initial, State.readAll_phrase d h]
  exact ⟨rfl, rfl⟩

variable (d : Dialect) (t u : String)

theorem segments_eq_closedSegments :
    d.segments t = d.closedSegments t ++ (d.stateBehind t).finish := rfl

/-- More text is read from the state behind the text in front of it. -/
theorem segments_append :
    d.segments (t ++ u) = d.closedSegments t ++ (d.stateBehind t).yield d u.toList := by
  have yields : d.segments (t ++ u) = State.initial.yield d (t ++ u).toList := rfl
  rw [yields, String.toList_append, State.yield_append]
  rfl

theorem stateBehind_append :
    d.stateBehind (t ++ u) = ((d.stateBehind t).readAll d u.toList).1 := by
  rw [stateBehind, String.toList_append, State.readAll_append]
  rfl

theorem stateBehind_push (c : Char) :
    d.stateBehind (t.push c) = ((d.stateBehind t).read d c).1 := by
  rw [stateBehind, String.toList_push, State.readAll_concat]
  rfl

theorem closedSegments_append :
    d.closedSegments (t ++ u) =
      d.closedSegments t ++ ((d.stateBehind t).readAll d u.toList).2 := by
  rw [closedSegments, String.toList_append, State.readAll_append]
  rfl

theorem stateBehind_here : (d.stateBehind t).here = .behind d.tab t.toList :=
  State.readAll_initial_here d t.toList

/-- No error comes out before the end of a text. -/
theorem isError_of_mem_closedSegments {s : Segment} (member : s ∈ d.closedSegments t) :
    s.isError = false := by
  have run : Alternates .static (d.closedSegments t) (d.stateBehind t).zone :=
    State.initial.readAll_alternates d t.toList
  simpa using List.filter_eq_nil_iff.mp run.filter_isError s member

/-- The end of a text closes one segment, or two if there is an error. -/
theorem length_finish :
    (d.stateBehind t).finish.length = if (d.segments t).any (·.isError) then 2 else 1 := by
  have closed : (d.closedSegments t).any (·.isError) = false := by
    apply List.any_eq_false.mpr
    intro s member
    simp [d.isError_of_mem_closedSegments t member]
  rw [segments_eq_closedSegments, List.any_append, closed, State.finish]
  cases (d.stateBehind t).zone <;> rfl

/-- Behind the closed segments comes one that starts where the open content began, whatever is
read next. -/
theorem getElem?_closedSegments (cs : List Char) :
    (d.closedSegments t ++ (d.stateBehind t).yield d cs)[(d.closedSegments t).length]?.map
      (·.start) = some (d.stateBehind t).start := by
  rw [List.getElem?_append_right le_rfl, Nat.sub_self, ← List.head?_eq_getElem?]
  exact (d.stateBehind t).head?_yield d cs

end Dialect

/-- More text leaves the segments of a text as they are, all but the last one, or the last two if
there is an error. The segment behind them is still there and keeps its start: the end of the first
text and more text are two ways to go on from the same state. -/
theorem Dialect.closed_segments_append (d : Dialect) (t u : String) :
    let k := (d.segments t).length - if (d.segments t).any (·.isError) then 2 else 1
    (d.segments (t ++ u)).take k = (d.segments t).take k ∧
    k + 1 ≤ (d.segments (t ++ u)).length ∧
    (d.segments (t ++ u))[k]?.map (·.start) = (d.segments t)[k]?.map (·.start) := by
  intro k
  have closed : k = (d.closedSegments t).length := by
    have all := congrArg List.length (d.segments_eq_closedSegments t)
    rw [List.length_append, length_finish] at all
    omega
  have before : (d.segments t)[k]?.map (·.start) = some (d.stateBehind t).start := by
    rw [closed]
    exact d.getElem?_closedSegments t []
  have behind : (d.segments (t ++ u))[k]?.map (·.start) = some (d.stateBehind t).start := by
    rw [closed, segments_append]
    exact d.getElem?_closedSegments t u.toList
  refine ⟨?_, ?_, ?_⟩
  · rw [closed, segments_append, List.take_left, segments_eq_closedSegments, List.take_left]
  · obtain ⟨s, found, _⟩ := Option.map_eq_some_iff.mp behind
    obtain ⟨inside, _⟩ := List.getElem?_eq_some_iff.mp found
    exact inside
  · rw [before, behind]

/-- At a clean cut, the last segment of the first text and the first one of the second text become
one, and the other segments of the second text follow, moved to where the first text ends. -/
theorem Dialect.segments_append_of_endsClean (d : Dialect) (t u : String)
    (clean : d.EndsClean t) :
    ∃ closed last first rest,
      d.segments t = closed ++ [last] ∧ d.segments u = first :: rest ∧
      d.segments (t ++ u) = closed ++ .static (last.content ++ first.content) last.start ::
        rest.map (Segment.moved (d.stateBehind t).here u) := by
  obtain ⟨zone, held⟩ := clean
  obtain ⟨content, start, state⟩ : ∃ content start,
      d.stateBehind t = ⟨.static, [], content, start, .behind d.tab (t.toList ++ [])⟩ := by
    refine ⟨_, _, State.ext zone held rfl rfl ?_⟩
    rw [List.append_nil, stateBehind_here]
  obtain ⟨first, rest, segments, yields⟩ :=
    (Pieces.of_segments d u).exists_yield_moved rfl t.toList content start
  refine ⟨d.closedSegments t, .static content start, first, rest, ?_, segments, ?_⟩
  · rw [segments_eq_closedSegments, state]
    simp [State.finish, State.partialContent]
  · rw [segments_append, stateBehind_here, state, yields]
    rfl

/-- A cut behind an escaped opener and a tab. The second text has a slot in its first line, a slot
behind a carriage return, and an error in a line of its own. -/
theorem Dialect.segments_append_of_endsClean_returns :
    let t := "a\n<%x%>\\<%\t"
    let u := "b<% y %>\r<%z%>\n<%"
    standard.EndsClean t ∧
    standard.segments (t ++ u) =
      [.static "a\n" .origin, .slot "x" ⟨2, 3, 5⟩, .static "<%\tb" ⟨2, 6, 8⟩,
        .slot "y" ⟨2, 13, 15⟩, .static "\r" ⟨2, 18, 20⟩, .slot "z" ⟨2, 3, 23⟩,
        .static "\n" ⟨2, 6, 26⟩, .unclosed "" ⟨3, 3, 29⟩, .static "" ⟨3, 3, 29⟩] := by
  intro t u
  have clean : standard.EndsClean t := by decide
  refine ⟨clean, ?_⟩
  obtain ⟨closed, last, first, rest, front, back, whole⟩ :=
    segments_append_of_endsClean standard t u clean
  have alone : standard.segments t =
      [.static "a\n" .origin, .slot "x" ⟨2, 3, 5⟩] ++ [.static "<%\t" ⟨2, 6, 8⟩] := by
    decide
  have behind : standard.segments u =
      .static "b" .origin :: [.slot "y" ⟨1, 4, 4⟩, .static "\r" ⟨1, 9, 9⟩, .slot "z" ⟨1, 3, 12⟩,
        .static "\n" ⟨1, 6, 15⟩, .unclosed "" ⟨2, 3, 18⟩, .static "" ⟨2, 3, 18⟩] := by
    decide
  obtain ⟨rfl, last_eq⟩ := List.append_inj' (front.symm.trans alone) rfl
  obtain rfl := List.singleton_inj.mp last_eq
  obtain ⟨rfl, rfl⟩ := List.cons.inj (back.symm.trans behind)
  rw [whole]
  decide

end Stencil
