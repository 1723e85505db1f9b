import Mathlib.Data.List.Chain
import Mathlib.Data.List.Infix
import Mathlib.Data.Prod.Lex
import Stencil.Proofs.Numerals
import Stencil.Proofs.Slices

/-!
# The order of labels

A label points at a location by its row and its column alone. Rows never go back, but a return sends
the column back within its row, so a later location may come before an earlier one, or have the same
label. Main statement: if every return of a text is followed by a line feed, the labels of its
segments increase, and each slot is known by its label.

## Implementation notes

A stretch of text moves a location on if it has a line feed or no return at all. The returns of a
piece and its delimiter are followed by line feeds of the same piece, since no delimiter begins with
a line feed.
-/

namespace Stencil

/-- Every return is followed by a line feed. -/
def ReturnsPaired (cs : List Char) : Prop :=
  ∀ rest, '\r' :: rest <:+ cs → rest.head? = some '\n'

instance (cs : List Char) : Decidable (ReturnsPaired cs) :=
  decidable_of_iff
    (∀ stretch ∈ cs.tails, stretch.head? = some '\r' → stretch.tail.head? = some '\n') <| by
  constructor
  · intro paired rest stretch
    exact paired _ ((List.mem_tails _ _).mpr stretch) rfl
  · rintro paired stretch member head
    obtain ⟨rest, rfl⟩ := List.head?_eq_some_iff.mp head
    exact paired rest ((List.mem_tails _ _).mp member)

namespace ReturnsPaired

variable {cs ds : List Char}

theorem right (paired : ReturnsPaired (cs ++ ds)) : ReturnsPaired ds := by
  intro rest stretch
  exact paired rest (stretch.trans (List.suffix_append cs ds))

/-- A front that does not end in a return has its line feeds to itself. -/
theorem left (paired : ReturnsPaired (cs ++ ds)) (last : cs.getLast? ≠ some '\r') :
    ReturnsPaired cs := by
  rintro rest ⟨front, rfl⟩
  cases rest with
  | nil => simp at last
  | cons c rest =>
      have feed := paired (c :: rest ++ ds) ⟨front, by simp⟩
      simpa using feed

/-- Without a line feed there is no return either. -/
theorem isReturn_eq_false (paired : ReturnsPaired cs) (one : '\n' ∉ cs) :
    ∀ c ∈ cs, Location.isReturn c = false := by
  intro c member
  simp only [Location.isReturn, Bool.or_eq_false_iff, beq_eq_false_iff_ne]
  constructor
  · rintro rfl
    exact one member
  · rintro rfl
    obtain ⟨front, rest, rfl⟩ := List.append_of_mem member
    have feed := List.mem_of_head? (paired rest (List.suffix_append _ _))
    exact one (List.mem_append_right _ (List.mem_cons_of_mem _ feed))

end ReturnsPaired

namespace Location

variable {tab : Int} {before cs : List Char} {l m : Location}

/-- The row and the column of a location. Rows come first when places are compared. -/
def place (l : Location) : Int ×ₗ Int := toLex (l.row, l.column)

theorem place_lt_iff :
    l.place < m.place ↔ l.row < m.row ∨ l.row = m.row ∧ l.column < m.column :=
  Prod.Lex.toLex_lt_toLex

theorem row_behind_append (tab : Int) (before cs : List Char) :
    (behind tab (before ++ cs)).row = (behind tab before).row + cs.count '\n' := by
  simp only [behind, List.count_append]
  omega

/-- Without a return, every character takes the column on. -/
theorem column_add_length_le (wide : 1 ≤ tab) (before : List Char)
    (line : ∀ c ∈ cs, isReturn c = false) :
    (behind tab before).column + cs.length ≤ (behind tab (before ++ cs)).column := by
  induction cs using List.reverseRecOn with
  | nil => simp
  | append_singleton cs c ih =>
      have further := ih fun c member => line c (List.mem_append_left _ member)
      have moves := line c (List.mem_append_right _ List.mem_cons_self)
      have room : 1 ≤ width tab c := by
        rw [width]
        split <;> omega
      rw [← List.append_assoc, behind_concat, after_column, moves, List.length_append]
      simp only [Bool.false_eq_true, if_false, List.length_singleton]
      omega

/-- Behind more text, with its returns paired, comes a later place. -/
theorem place_behind_lt (wide : 1 ≤ tab) (paired : ReturnsPaired cs) (more : cs ≠ []) :
    (behind tab before).place < (behind tab (before ++ cs)).place := by
  have row := row_behind_append tab before cs
  rw [place_lt_iff]
  by_cases feed : '\n' ∈ cs
  · left
    have feeds : 0 < cs.count '\n' := List.count_pos_iff.mpr feed
    omega
  · right
    have feeds : cs.count '\n' = 0 := List.count_eq_zero.mpr feed
    have column := column_add_length_le wide before (paired.isReturn_eq_false feed)
    have length : 0 < cs.length := List.length_pos_iff.mpr more
    constructor <;> omega

theorem toList_label (l : Location) :
    l.label.toList = (toString l.row).toList ++ ':' :: (toString l.column).toList := by
  rw [label, String.toList_append, String.toList_append, List.append_assoc]
  rfl

/-- A label tells the place, since numbers are written without a colon. -/
theorem place_eq_of_label_eq (same : l.label = m.label) : l.place = m.place := by
  have written := congrArg String.toList same
  rw [toList_label, toList_label] at written
  have free (i : Int) : ':' ∉ (toString i).toList := notMem_toString (by decide) (by decide) i
  obtain ⟨rows, _, columns⟩ :=
    (List.append_cons_inj_of_notMem (free l.row) (free l.column)).mp written
  have row : l.row = m.row := toString_injective (String.toList_inj.mp rows)
  have column : l.column = m.column := toString_injective (String.toList_inj.mp columns)
  rw [place, row, column]
  rfl

end Location

namespace Segment

/-- How a segment is placed against the next one: at an earlier place, unless it is an error about
no text at all, where an empty static text takes the same place. -/
def PlacedBefore (text : String) (s next : Segment) : Prop :=
  if s.kind = .error ∧ s.textFrom text = [] then next = .static "" s.start
  else s.start.place < next.start.place

variable {text : String} {s next : Segment} {segments : List Segment}

theorem PlacedBefore.place_le (h : s.PlacedBefore text next) :
    s.start.place ≤ next.start.place := by
  rw [PlacedBefore] at h
  split at h
  · exact le_of_eq (by rw [h]; rfl)
  · exact le_of_lt h

theorem PlacedBefore.place_lt (h : s.PlacedBefore text next) (closed : s.kind ≠ .error) :
    s.start.place < next.start.place := by
  rwa [PlacedBefore, if_neg fun exception => closed exception.1] at h

/-- Each segment but an error is at an earlier place than all that follow it. Only the first step
has to be strict, since an error may stay in place later on. -/
theorem pairwise_place_lt (chain : segments.IsChain (PlacedBefore text)) :
    segments.Pairwise fun s t => s.kind ≠ .error → s.start.place < t.start.place := by
  have never_back : (segments.map (·.start.place)).IsChain (· ≤ ·) := by
    rw [List.isChain_map]
    exact chain.imp fun _ _ placed => placed.place_le
  induction segments with
  | nil => exact .nil
  | cons s rest ih =>
      refine .cons ?_ (ih chain.tail never_back.tail)
      intro t member closed
      cases rest with
      | nil => cases member
      | cons next more =>
          have first : s.start.place < next.start.place := chain.rel.place_lt closed
          have others : next.start.place ≤ t.start.place := by
            rcases List.mem_cons.mp member with rfl | later
            · exact le_rfl
            · exact never_back.tail.rel_cons (List.mem_map_of_mem later)
          exact first.trans_le others

end Segment

namespace Pieces

variable {d : Dialect} {text : String} {before cs : List Char} {z : Zone} {segments : List Segment}

/-- Segments are placed one before the other. Returns are paired within each piece, since one at its
end would need a line feed, which no delimiter begins with. -/
theorem isChain_placedBefore (h : Pieces d before z cs segments)
    (cut : text.toList = before ++ cs) (paired : ReturnsPaired cs) :
    segments.IsChain (Segment.PlacedBefore text) := by
  induction h with
  | @closed before cs m rest z segments _ pieces ih =>
      have piece : ReturnsPaired (cs ++ z.delimiter) := by
        apply paired.left
        cases z <;> simp [Zone.delimiter, openDelimiter, closeDelimiter]
      have further : cs ++ z.delimiter ≠ [] := by simp [Zone.delimiter_eq]
      refine (ih (by simpa using cut) paired.right).cons ?_
      intro next head
      have closed : (z.segment (.ofList m) (.behind d.tab before)).kind ≠ .error := by
        cases z <;> simp [Zone.segment, Segment.static, Segment.slot]
      rw [Segment.PlacedBefore, if_neg fun exception => closed exception.1, z.segment_start,
        pieces.start_of_mem_head? head, List.append_assoc]
      exact Location.place_behind_lt d.one_le_tab piece further
  | static _ _ => exact .singleton _
  | @slot before cs m w _ _ =>
      have rest : (Segment.unclosed (.ofList (m ++ w)) (.behind d.tab before)).textFrom text =
          cs ++ w := Segment.textFrom_eq cut rfl
      rw [List.isChain_pair, Segment.PlacedBefore, rest, List.append_assoc]
      split
      · rename_i exception
        rw [exception.2, List.append_nil]
        rfl
      · rename_i text_left
        apply Location.place_behind_lt d.one_le_tab paired
        intro none
        exact text_left ⟨rfl, none⟩

end Pieces

/-- If every return of a text is followed by a line feed, the places of its segments increase from
each one to the next. Only the empty static text behind an error is at the place of the error if the
text ends right behind the opener. So no two slots have the same label, whatever the tab width. -/
theorem Dialect.segments_placed (d : Dialect) (text : String)
    (paired : ReturnsPaired text.toList) :
    (d.segments text).IsChain (fun s next =>
      if s.kind = .error ∧ s.textFrom text = [] then next = .static "" s.start
      else s.start.row < next.start.row ∨
        s.start.row = next.start.row ∧ s.start.column < next.start.column) ∧
    (((d.segments text).filter (·.isSlot)).map (·.start.label)).Nodup := by
  have chain := (Pieces.of_segments d text).isChain_placedBefore rfl paired
  constructor
  · apply chain.imp
    intro s next placed
    rwa [Segment.PlacedBefore, Location.place_lt_iff] at placed
  · apply List.pairwise_map.mpr
    apply ((Segment.pairwise_place_lt chain).filter (·.isSlot)).imp_of_mem
    intro s t member _ earlier same
    have slot : s.kind = .slot := by simpa [Segment.isSlot] using (List.mem_filter.mp member).2
    have place := earlier (by simp [slot])
    rw [Location.place_eq_of_label_eq same] at place
    exact lt_irrefl _ place

/-- Two slots in the same column of two rows, and an opener at the end of the text. -/
theorem Dialect.segments_placed_unclosed :
    let text := "a<%b%>\r\n\t<%c%>\r\n<%"
    let error := Segment.unclosed "" ⟨3, 3, 19⟩
    ReturnsPaired text.toList ∧
    (standard.segments text =
        [.static "a" .origin, .slot "b" ⟨1, 4, 4⟩, .static "\r\n\t" ⟨1, 7, 7⟩,
          .slot "c" ⟨2, 4, 12⟩, .static "\r\n" ⟨2, 7, 15⟩, error, .static "" error.start] ∧
      (standard.segments text).IsChain (fun s next =>
        if s.kind = .error ∧ s.textFrom text = [] then next = .static "" s.start
        else s.start.row < next.start.row ∨
          s.start.row = next.start.row ∧ s.start.column < next.start.column)) ∧
    (((standard.segments text).filter (·.isSlot)).map (·.start.label) = ["1:4", "2:4"] ∧
      ["1:4", "2:4"].Nodup) := by
  intro text error
  have paired : ReturnsPaired text.toList := by decide
  have segments : standard.segments text =
      [.static "a" .origin, .slot "b" ⟨1, 4, 4⟩, .static "\r\n\t" ⟨1, 7, 7⟩,
        .slot "c" ⟨2, 4, 12⟩, .static "\r\n" ⟨2, 7, 15⟩, error, .static "" error.start] := by
    decide
  have labels : ((standard.segments text).filter (·.isSlot)).map (·.start.label) =
      ["1:4", "2:4"] := by
    decide
  obtain ⟨chain, distinct⟩ := segments_placed standard text paired
  rw [labels] at distinct
  exact ⟨paired, ⟨segments, chain⟩, labels, distinct⟩

/-- A return without a line feed gives two slots the same label. -/
example :
    ((Dialect.standard.segments "<%a%>\r<%b%>").filter (·.isSlot)).map (·.start.label) =
      ["1:3", "1:3"] := by
  decide

end Stencil
