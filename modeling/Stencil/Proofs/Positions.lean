import Mathlib.Data.List.Chain
import Stencil.Proofs.Pieces

/-!
# Where segments start

The start of a segment counts the rows, the columns and the characters of the text in front of it.
This text ends in the delimiter that led into the segment, so a location in a message points right
behind a delimiter. Main statement: this holds of every segment, and the width of a tab only moves
columns.
-/

namespace Stencil

/-- The characters of a text in front of the start of a segment. -/
def Segment.textBefore (text : String) (s : Segment) : List Char :=
  text.toList.take (s.start.offset - 1).toNat

/-- What a segment shows of itself apart from its column. -/
def Segment.withoutColumn (s : Segment) : Segment.Kind × String × Int × Int :=
  (s.kind, s.content, s.start.row, s.start.offset)

theorem Segment.textBefore_eq {text : String} {s : Segment} {tab : Int} {p : List Char}
    (front : p <+: text.toList) (start : s.start = .behind tab p) : s.textBefore text = p := by
  have offset : (s.start.offset - 1).toNat = p.length := by
    rw [start]
    simp only [Location.behind]
    omega
  rw [textBefore, offset]
  exact (List.prefix_iff_eq_take.mp front).symm

namespace Pieces

variable {d : Dialect} {before cs : List Char} {z : Zone} {segments : List Segment}

/-- The first of some pieces starts behind the text before them. -/
theorem head?_start (h : Pieces d before z cs segments) :
    segments.head?.map (·.start) = some (.behind d.tab before) := by
  cases h with
  | closed _ _ => simp
  | static _ _ => rfl
  | slot _ _ => rfl

theorem start_of_mem_head? (h : Pieces d before z cs segments) {s : Segment}
    (head : s ∈ segments.head?) : s.start = .behind d.tab before := by
  have first := h.head?_start
  rw [Option.mem_def.mp head] at first
  exact Option.some.inj first

/-- A segment starts behind a part of the text, which ends in an opener if the segment is no
static text. -/
theorem mem_start (h : Pieces d before z cs segments)
    (opened : z = .slot → openDelimiter <:+ before) :
    ∀ s ∈ segments, ∃ p, p <+: before ++ cs ∧ s.start = .behind d.tab p ∧
      (s.kind ≠ .static → openDelimiter <:+ p) := by
  induction h with
  | @closed before cs m rest z segments _ _ ih =>
      rw [← List.append_assoc, ← List.append_assoc]
      intro s member
      rcases List.mem_cons.mp member with rfl | later
      · refine ⟨before, ⟨cs ++ z.delimiter ++ rest, by simp⟩, z.segment_start _ _, ?_⟩
        cases z with
        | static => exact fun kind => absurd rfl kind
        | slot => exact fun _ => opened rfl
      · refine ih ?_ s later
        intro zone
        cases z with
        | static => exact List.suffix_append _ _
        | slot => simp [Zone.other] at zone
  | @static before cs m w _ _ =>
      intro s member
      obtain rfl := List.mem_singleton.mp member
      exact ⟨before, List.prefix_append _ _, rfl, fun kind => absurd rfl kind⟩
  | @slot before cs m w _ _ =>
      intro s member
      rcases List.mem_cons.mp member with rfl | member
      · exact ⟨before, List.prefix_append _ _, rfl, fun _ => opened rfl⟩
      · obtain rfl := List.mem_singleton.mp member
        refine ⟨before ++ cs ++ w, by simp, rfl, fun kind => absurd rfl kind⟩

/-- How a segment starts behind the one before it: behind a closer after a slot, and at the end of
the text after an error. -/
def Follows (tab : Int) (text : List Char) (s t : Segment) : Prop :=
  (s.kind = .slot → ∃ p, p <+: text ∧ t.start = .behind tab p ∧ closeDelimiter <:+ p) ∧
    (s.kind = .error → t.start = .behind tab text)

theorem isChain_follows (h : Pieces d before z cs segments) :
    segments.IsChain (Follows d.tab (before ++ cs)) := by
  induction h with
  | @closed before cs m rest z segments _ pieces ih =>
      rw [← List.append_assoc, ← List.append_assoc]
      refine ih.cons ?_
      intro t head
      have start := pieces.start_of_mem_head? head
      constructor
      · intro kind
        refine ⟨_, List.prefix_append _ _, start, ?_⟩
        cases z with
        | static => simp [Zone.segment, Segment.static] at kind
        | slot => exact List.suffix_append _ _
      · intro kind
        cases z <;> simp [Zone.segment, Segment.static, Segment.slot] at kind
  | static _ _ => exact .singleton _
  | @slot before cs m w _ _ =>
      refine List.isChain_pair.mpr ⟨?_, ?_⟩
      · intro kind
        simp [Segment.unclosed, Segment.error] at kind
      · intro _
        rw [← List.append_assoc]
        rfl

/-- The pieces of a text in a dialect whose tabs have another width. -/
theorem exists_withoutColumn {d' : Dialect} (escape : d'.escape = d.escape)
    (h : Pieces d before z cs segments) :
    ∃ others, Pieces d' before z cs others ∧
      others.map (·.withoutColumn) = segments.map (·.withoutColumn) := by
  induction h with
  | @closed before cs m rest z segments phrase _ ih =>
      obtain ⟨others, pieces, same⟩ := ih
      rw [← escape] at phrase
      refine ⟨_, .closed phrase pieces, ?_⟩
      rw [List.map_cons, List.map_cons, same]
      cases z <;> rfl
  | static phrase withheld =>
      rw [← escape] at phrase withheld
      exact ⟨_, .static phrase withheld, rfl⟩
  | slot phrase withheld =>
      rw [← escape] at phrase withheld
      exact ⟨_, .slot phrase withheld, rfl⟩

end Pieces

/-- A segment starts where the rows, the columns of the last line and the characters of the text in
front of it are counted off. This text is empty for the first segment, ends in an opener for a slot
or an error and in a closer behind a slot, and is the whole text behind an error. Another width of
a tab moves columns only. -/
theorem Dialect.start_segments (d : Dialect) (text : String) :
    (d.segments text).head?.map (·.start) = some .origin ∧
    (∀ s ∈ d.segments text, s.start = .behind d.tab (s.textBefore text) ∧
      (s.kind ≠ .static → openDelimiter <:+ s.textBefore text)) ∧
    (∀ s t, [s, t] <:+: d.segments text →
      (s.kind = .slot → closeDelimiter <:+ t.textBefore text) ∧
      (s.kind = .error → t.start.offset = text.length + 1)) ∧
    (∀ d' : Dialect, d'.escape = d.escape →
      (d'.segments text).map (·.withoutColumn) = (d.segments text).map (·.withoutColumn)) := by
  have pieces := Pieces.of_segments d text
  refine ⟨pieces.head?_start, ?_, ?_, ?_⟩
  · intro s member
    obtain ⟨p, front, start, opened⟩ := pieces.mem_start nofun s member
    rw [Segment.textBefore_eq front start]
    exact ⟨start, opened⟩
  · intro s t neighbours
    have chain := List.IsChain.infix pieces.isChain_follows neighbours
    obtain ⟨closed, ended⟩ := List.isChain_pair.mp chain
    constructor
    · intro kind
      obtain ⟨p, front, start, closer⟩ := closed kind
      rw [Segment.textBefore_eq front start]
      exact closer
    · intro kind
      rw [ended kind, List.nil_append]
      simp only [Location.behind, String.length_toList]
      omega
  · intro d' escape
    obtain ⟨others, pieces', same⟩ := pieces.exists_withoutColumn escape
    rw [pieces'.segments_eq]
    exact same

/-- A slot behind a line break and a tab, the text behind it, and an error at the end of the text,
read with tabs of one column and of four. -/
theorem Dialect.start_segments_tab_error :
    let text := "a\n\t<%x%>\t<%"
    let slot := Segment.slot "x" ⟨2, 4, 6⟩
    let tail := Segment.static "\t" ⟨2, 7, 9⟩
    let error := Segment.unclosed "" ⟨2, 10, 12⟩
    let wide : Dialect := ⟨'\\', 4, by decide, by decide, by decide⟩
    (slot ∈ standard.segments text ∧ slot.start = .behind 1 (slot.textBefore text) ∧
      slot.kind ≠ .static ∧ openDelimiter <:+ slot.textBefore text) ∧
    ([slot, tail] <:+: standard.segments text ∧ closeDelimiter <:+ tail.textBefore text) ∧
    ([error, .static "" ⟨2, 10, 12⟩] <:+: standard.segments text ∧ (12 : Int) = text.length + 1) ∧
    (wide.escape = standard.escape ∧
      (wide.segments text).map (·.withoutColumn) =
        (standard.segments text).map (·.withoutColumn)) := by
  intro text slot tail error wide
  have segments : standard.segments text =
      [.static "a\n\t" .origin, slot, tail, error, .static "" ⟨2, 10, 12⟩] := by
    decide
  obtain ⟨_, starts, neighbours, widths⟩ := start_segments standard text
  have slot_mem : slot ∈ standard.segments text := by simp [segments]
  have slot_tail : [slot, tail] <:+: standard.segments text :=
    ⟨[.static "a\n\t" .origin], [error, .static "" ⟨2, 10, 12⟩], segments.symm⟩
  have error_last : [error, .static "" ⟨2, 10, 12⟩] <:+: standard.segments text :=
    ⟨[.static "a\n\t" .origin, slot, tail], [], segments.symm⟩
  obtain ⟨start, opened⟩ := starts slot slot_mem
  have inner : slot.kind ≠ .static := by decide
  exact ⟨⟨slot_mem, start, inner, opened inner⟩,
    ⟨slot_tail, (neighbours slot tail slot_tail).1 rfl⟩,
    ⟨error_last, (neighbours error _ error_last).2 rfl⟩, rfl, widths wide rfl⟩

end Stencil
