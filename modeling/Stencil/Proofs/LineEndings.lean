import Mathlib.Data.List.Induction
import Stencil.Proofs.Positions
import Stencil.Proofs.Respelling

/-!
# Line endings

Lines may end in a line feed alone or in a carriage return and a line feed. A carriage return in
front of every line feed is a respelling of the text in its own dialect: both characters are blank,
neither is an escape or part of a delimiter, and the return stays in the row that the line feed
ends. Main statement: with returns, a text has the same segments in the same rows and columns.
-/

namespace Stencil

namespace Location

/-- The same row and column of a text that has `n` more characters before. -/
def further (n : Int) (l : Location) : Location := ⟨l.row, l.column, l.offset + n⟩

theorem further_further (m n : Int) (l : Location) :
    (l.further m).further n = l.further (m + n) := by
  simp only [further, Int.add_assoc]

/-- More characters before play no part in reading the next one. -/
theorem further_after (tab n : Int) (l : Location) (c : Char) :
    (l.further n).after tab c = (l.after tab c).further n := by
  apply Location.ext
  · simp only [after_row, further]
  · simp only [after_column, further]
  · simp only [after_offset, further]
    omega

/-- A line feed moves on in the same way behind a return, one character later. -/
theorem after_return_after_feed (tab : Int) (l : Location) :
    (l.after tab '\r').after tab '\n' = (l.after tab '\n').further 1 := rfl

end Location

/-- The text with a carriage return in front of every line feed. -/
def Text.withReturns (s : String) : String :=
  .ofList (s.toList.flatMap fun c => if c = '\n' then ['\r', '\n'] else [c])

theorem Text.withReturns_append (s t : String) :
    withReturns (s ++ t) = withReturns s ++ withReturns t := by
  simp [withReturns, String.toList_append, String.ofList_append]

namespace Segment

/-- A segment of a text as it is with returns, of which there is one for each line feed in front of
it. -/
def withReturns (text : String) (s : Segment) : Segment where
  kind := s.kind
  content := Text.withReturns s.content
  start := s.start.further ((s.textBefore text).count '\n')

/-- The words around the content in a message stay as they are. -/
theorem withReturns_unclosedMessage (content : String) :
    Text.withReturns (unclosedMessage content) = unclosedMessage (Text.withReturns content) := by
  have front : Text.withReturns "Invalid/incomplete slot '" = "Invalid/incomplete slot '" := by
    decide
  have back : Text.withReturns "'" = "'" := by decide
  rw [unclosedMessage_eq, unclosedMessage_eq, Text.withReturns_append, Text.withReturns_append,
    front, back]

end Segment

namespace Respelling

/-- Line feeds are written with a return in front of them. -/
def returns (d : Dialect) : Respelling d d where
  first c := if c = '\n' then '\r' else c
  more c := if c = '\n' then ['\n'] else []
  first_eq_escape_iff c := by
    split
    · rename_i feed
      have return_ne := d.ne_escape_of_isBlank (c := '\r') rfl
      have feed_ne := d.ne_escape_of_isBlank (c := '\n') rfl
      simp [feed, return_ne, feed_ne]
    · rfl
  first_eq_iff {x} delimiter c := by
    split
    · rename_i feed
      have return_ne : '\r' ≠ x := by
        rintro rfl
        cases delimiter
      have feed_ne : '\n' ≠ x := by
        rintro rfl
        cases delimiter
      simp [feed, return_ne, feed_ne]
    · rfl
  more_eq_nil {c} special := by
    apply if_neg
    rintro rfl
    rcases special with escape | delimiter
    · exact d.ne_escape_of_isBlank rfl escape
    · cases delimiter
  more_plain {c x} member := by
    split at member
    · obtain rfl := List.mem_singleton.mp member
      exact ⟨d.ne_escape_of_isBlank rfl, rfl⟩
    · cases member
  isBlank_eq {c x} member := by
    split at member
    · rename_i feed
      subst feed
      rcases List.mem_cons.mp member with rfl | member
      · rfl
      · obtain rfl := List.mem_singleton.mp member
        rfl
    · obtain rfl := List.mem_singleton.mp member
      rfl

variable (d : Dialect)

theorem spell_returns (cs : List Char) :
    (returns d).spell cs = cs.flatMap fun c => if c = '\n' then ['\r', '\n'] else [c] := by
  rw [spell]
  congr 1
  funext c
  simp only [returns]
  split <;> rfl

theorem write_returns (s : String) : (returns d).write s = Text.withReturns s := by
  rw [write, spell_returns, Text.withReturns]

/-- Returns change neither the row nor the column behind a text. -/
theorem behind_returns (cs : List Char) :
    Location.behind d.tab ((returns d).spell cs) =
      (Location.behind d.tab cs).further (cs.count '\n') := by
  induction cs using List.reverseRecOn with
  | nil => rfl
  | append_singleton cs c ih =>
      rw [spell_append, Location.behind_concat]
      by_cases feed : c = '\n'
      · subst feed
        have written : (returns d).spell ['\n'] = ['\r'] ++ ['\n'] := rfl
        have count : (cs ++ ['\n']).count '\n' = cs.count '\n' + 1 := by simp
        rw [written, ← List.append_assoc, Location.behind_concat, Location.behind_concat, ih,
          Location.further_after, Location.further_after, Location.after_return_after_feed, count,
          Location.further_further]
        congr 1
        omega
      · have written : (returns d).spell [c] = [c] := by
          simp [returns, feed]
        have count : (cs ++ [c]).count '\n' = cs.count '\n' := by
          simp [List.count_append, feed]
        rw [written, Location.behind_concat, ih, Location.further_after, count]

/-- What is written for a segment is the segment with returns. -/
theorem Writes.eq_withReturns {text : String} {s t : Segment}
    (h : (returns d).Writes text.toList s t) : t = s.withReturns text := by
  cases h with
  | @closed z before content part _ =>
      have start : (z.segment content (.behind d.tab before)).start = .behind d.tab before :=
        z.segment_start _ _
      rw [Segment.withReturns, Segment.textBefore_eq part start, start, ← behind_returns,
        ← write_returns d]
      cases z with
      | static => rfl
      | slot => exact congrArg (Segment.mk .slot · _) ((returns d).trim_write content)
  | @unclosed before content part _ =>
      have start : (Segment.unclosed content (.behind d.tab before)).start =
          .behind d.tab before := rfl
      rw [Segment.withReturns, Segment.textBefore_eq part start, start, ← behind_returns,
        write_returns]
      exact congrArg (Segment.mk .error · _) (Segment.withReturns_unclosedMessage content).symm

end Respelling

/-- With returns, a text has the same segments with returns in their contents. They start in the
same rows and columns, and each line feed of the text in front of one makes its offset larger by
one. -/
theorem Dialect.segments_withReturns (d : Dialect) (text : String) :
    d.segments (Text.withReturns text) = (d.segments text).map (Segment.withReturns text) := by
  rw [← Respelling.write_returns d]
  apply segments_write
  intro s t writes
  exact writes.eq_withReturns d

/-- A line feed is taken along behind an escape character, and the return instead of it. -/
example :
    Dialect.standard.segments (Text.withReturns "\\\n<%\nx\n%>") =
      [.static "\\\r\n" .origin, .slot "x" ⟨2, 3, 6⟩, .static "" ⟨4, 3, 13⟩] := by
  decide

end Stencil
