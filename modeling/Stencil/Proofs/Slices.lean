import Stencil.Proofs.Positions

/-!
# The slices of a text

A segment is read from a slice of the text, which runs from the start of the segment up to the
delimiter in front of the next one. The last segment and an error are read from all that is left,
so the empty static text behind an error has no slice. Main statement: the slices with their
delimiters are the text again, and each slice gives its segment again without the text around it.

## Implementation notes

Slices are cut out of the text by the starts of the segments only. They are compared with the
pieces of the text, which know what was read.
-/

namespace Stencil

namespace Segment

/-- What a segment shows of itself apart from its start. -/
def outline (s : Segment) : Segment.Kind × String := (s.kind, s.content)

/-- The characters of a text from the start of a segment on. -/
def textFrom (text : String) (s : Segment) : List Char :=
  text.toList.drop (s.start.offset - 1).toNat

/-- The characters of a text from the start of a segment up to the two of the delimiter in front
of the next one. -/
def textUpTo (text : String) (s next : Segment) : List Char :=
  (s.textFrom text).take (next.start.offset - 2 - s.start.offset).toNat

/-- Segments with their slices of a text. What stands behind an error has none. -/
def withSlices (text : String) : List Segment → List (Segment × List Char)
  | [] => []
  | [s] => [(s, s.textFrom text)]
  | s :: next :: segments =>
    if s.isError then [(s, s.textFrom text)]
    else (s, s.textUpTo text next) :: withSlices text (next :: segments)

/-- A slice without the text around it gives the outline of its segment again. A static text needs
nothing around its slice, a slot needs its delimiters and an error the opener. -/
def ReadsAlone (d : Dialect) (s : Segment) (slice : List Char) : Prop :=
  match s.kind with
  | .static => d.segments (.ofList slice) = [.static s.content .origin]
  | .slot =>
    (d.segments (.ofList (openDelimiter ++ slice ++ closeDelimiter))).map outline =
      [(.static, ""), (.slot, s.content), (.static, "")]
  | .error =>
    (d.segments (.ofList (openDelimiter ++ slice))).map outline =
      [(.static, ""), (.error, s.content), (.static, "")]

theorem withSlices_eq_nil_iff {text : String} {segments : List Segment} :
    withSlices text segments = [] ↔ segments = [] := by
  fun_cases withSlices text segments <;> simp

theorem textFrom_eq {text : String} {s : Segment} {tab : Int} {before cs : List Char}
    (cut : text.toList = before ++ cs) (start : s.start = .behind tab before) :
    s.textFrom text = cs := by
  have offset : (s.start.offset - 1).toNat = before.length := by
    rw [start]
    simp only [Location.behind]
    omega
  rw [textFrom, offset, cut, List.drop_left]

theorem textUpTo_eq {text : String} {s next : Segment} {tab : Int} {before cs rest : List Char}
    {z : Zone} (cut : text.toList = before ++ (cs ++ z.delimiter ++ rest))
    (start : s.start = .behind tab before)
    (nextStart : next.start = .behind tab (before ++ cs ++ z.delimiter)) :
    s.textUpTo text next = cs := by
  have length : (next.start.offset - 2 - s.start.offset).toNat = cs.length := by
    rw [start, nextStart, Zone.delimiter_eq]
    simp only [Location.behind, List.length_append, List.length_cons, List.length_nil]
    omega
  rw [textUpTo, textFrom_eq cut start, length, List.append_assoc, List.take_left]

end Segment

/-- Slices with the delimiters of the zones between them. -/
def Zone.join : Zone → List (List Char) → List Char
  | _, [] => []
  | _, [slice] => slice
  | z, slice :: next :: slices => slice ++ z.delimiter ++ z.other.join (next :: slices)

theorem Zone.join_cons (z : Zone) (slice : List Char) {slices : List (List Char)}
    (more : slices ≠ []) :
    z.join (slice :: slices) = slice ++ z.delimiter ++ z.other.join slices := by
  cases slices with
  | nil => exact absurd rfl more
  | cons next slices => rfl

namespace Phrase

variable {d : Dialect} {z : Zone} {cs m w : List Char}

/-- A static phrase on its own, which the text may cut short. -/
theorem segments_static (h : Phrase d.escape .static cs m)
    (withheld : Withheld d.escape .static w) :
    d.segments (.ofList (cs ++ w)) = [.static (.ofList (m ++ w)) .origin] :=
  Pieces.segments_ofList (.static h withheld)

end Phrase

namespace Pieces

variable {d : Dialect} {text : String} {before cs m rest w : List Char} {z : Zone}
variable {segments : List Segment}

theorem ne_nil (h : Pieces d before z cs segments) : segments ≠ [] := by
  cases h <;> exact List.cons_ne_nil _ _

/-- Behind an opener, the pieces of a slot are read as if nothing stood before it. -/
theorem outline_opened (h : Pieces d openDelimiter .slot cs segments) :
    (d.segments (.ofList (openDelimiter ++ cs))).map Segment.outline =
      (.static, "") :: segments.map Segment.outline := by
  have opened : Pieces d [] .static (openDelimiter ++ cs)
      (.static "" (.behind d.tab []) :: segments) := .closed (z := .static) .nil h
  rw [opened.segments_ofList]
  rfl

/-- A piece that its delimiter ends gives its segment again on its own. -/
theorem readsAlone_closed (phrase : Phrase d.escape z cs m) (start : Location) :
    (z.segment (.ofList m) start).ReadsAlone d cs := by
  cases z with
  | static =>
      have alone := phrase.segments_static .nothing
      rw [List.append_nil, List.append_nil] at alone
      exact alone
  | slot =>
      have empty : Pieces d (openDelimiter ++ cs ++ closeDelimiter) .static []
          [.static "" (.behind d.tab (openDelimiter ++ cs ++ closeDelimiter))] :=
        .static .nil .nothing
      have alone := outline_opened (.closed phrase empty)
      rw [List.append_nil, ← List.append_assoc] at alone
      exact alone

/-- A slot that the text cuts short gives its error again on its own. -/
theorem readsAlone_unclosed (phrase : Phrase d.escape .slot cs m)
    (withheld : Withheld d.escape .slot w) (start : Location) :
    (Segment.unclosed (.ofList (m ++ w)) start).ReadsAlone d (cs ++ w) :=
  outline_opened (.slot phrase withheld)

/-- A piece is the slice of its segment, and the pieces behind it have the slices behind it. Of the
next segment only the start matters, which lies right behind the delimiter. -/
theorem withSlices_closed (cut : text.toList = before ++ (cs ++ z.delimiter ++ rest))
    (h : Pieces d (before ++ cs ++ z.delimiter) z.other rest segments) (content : String) :
    Segment.withSlices text (z.segment content (.behind d.tab before) :: segments) =
      (z.segment content (.behind d.tab before), cs) :: Segment.withSlices text segments := by
  have first := h.head?_start
  cases segments with
  | nil => simp at first
  | cons next segments =>
      have nextStart := Option.some.inj first
      have slice : (z.segment content (.behind d.tab before)).textUpTo text next = cs :=
        Segment.textUpTo_eq cut (z.segment_start _ _) nextStart
      rw [Segment.withSlices, Zone.segment_isError, slice]
      rfl

/-- The slices of pieces join to the text that is cut into them. -/
theorem join_withSlices (h : Pieces d before z cs segments) (cut : text.toList = before ++ cs) :
    z.join ((Segment.withSlices text segments).map (·.2)) = cs := by
  induction h with
  | @closed before cs m rest z segments phrase pieces ih =>
      have later := ih (by simpa using cut)
      have more : (Segment.withSlices text segments).map (·.2) ≠ [] := by
        intro none
        exact pieces.ne_nil (Segment.withSlices_eq_nil_iff.mp (List.map_eq_nil_iff.mp none))
      rw [withSlices_closed cut pieces, List.map_cons, Zone.join_cons _ _ more, later]
  | static _ _ => exact Segment.textFrom_eq cut rfl
  | slot _ _ => exact Segment.textFrom_eq cut rfl

/-- Every segment has a slice, apart from the last one if there is an error. -/
theorem owners_withSlices (h : Pieces d before z cs segments)
    (cut : text.toList = before ++ cs) :
    (Segment.withSlices text segments).map (·.1) =
      if segments.any (·.isError) then segments.dropLast else segments := by
  induction h with
  | @closed before cs m rest z segments phrase pieces ih =>
      have later := ih (by simpa using cut)
      rw [withSlices_closed cut pieces, List.map_cons, later, List.any_cons,
        Zone.segment_isError, Bool.false_or, List.dropLast_cons_of_ne_nil pieces.ne_nil]
      split <;> rfl
  | static _ _ => rfl
  | slot _ _ => rfl

/-- Each slice gives its segment again on its own. -/
theorem readsAlone_withSlices (h : Pieces d before z cs segments)
    (cut : text.toList = before ++ cs) :
    ∀ p ∈ Segment.withSlices text segments, p.1.ReadsAlone d p.2 := by
  induction h with
  | @closed before cs m rest z segments phrase pieces ih =>
      rw [withSlices_closed cut pieces]
      intro p member
      rcases List.mem_cons.mp member with rfl | later
      · exact readsAlone_closed phrase _
      · exact ih (by simpa using cut) p later
  | @static before cs m w phrase withheld =>
      intro p member
      obtain rfl := List.mem_singleton.mp member
      rw [Segment.textFrom_eq cut rfl]
      exact phrase.segments_static withheld
  | @slot before cs m w phrase withheld =>
      intro p member
      obtain rfl := List.mem_singleton.mp member
      rw [Segment.textFrom_eq cut rfl]
      exact readsAlone_unclosed phrase withheld _

end Pieces

/-- The starts of its segments cut a text into slices, one for each segment apart from the static
text behind an error. With the delimiters between them the slices are the text again, and each
slice that is read on its own gives its segment again. -/
theorem Dialect.slices_segments (d : Dialect) (text : String) :
    let sliced := Segment.withSlices text (d.segments text)
    sliced.map (·.1) = (if (d.segments text).any (·.isError) then (d.segments text).dropLast
      else d.segments text) ∧
    Zone.static.join (sliced.map (·.2)) = text.toList ∧
    ∀ p ∈ sliced, p.1.ReadsAlone d p.2 := by
  intro sliced
  have pieces := Pieces.of_segments d text
  have cut : text.toList = [] ++ text.toList := rfl
  exact ⟨pieces.owners_withSlices cut, pieces.join_withSlices cut,
    pieces.readsAlone_withSlices cut⟩

/-- Slices with an escaped opener, an escaped closer and a closer that the text cuts short. -/
theorem Dialect.slices_segments_escapes :
    let text := "\\<%a<% x\\%> %>b<%y%"
    let sliced := Segment.withSlices text (standard.segments text)
    let slot := (Segment.slot " x%> " ⟨1, 7, 7⟩, " x\\%> ".toList)
    let error := (Segment.unclosed "y%" ⟨1, 18, 18⟩, "y%".toList)
    sliced = [(.static "<%a" .origin, "\\<%a".toList), slot, (.static "b" ⟨1, 15, 15⟩, ['b']),
      error] ∧
    Zone.static.join (sliced.map (·.2)) = text.toList ∧
    (slot ∈ sliced ∧ slot.1.ReadsAlone standard slot.2) ∧
    (error ∈ sliced ∧ error.1.ReadsAlone standard error.2) := by
  intro text sliced slot error
  have slices : sliced = [(.static "<%a" .origin, "\\<%a".toList), slot,
      (.static "b" ⟨1, 15, 15⟩, ['b']), error] := by
    decide
  obtain ⟨_, joined, alone⟩ := slices_segments standard text
  have slot_mem : slot ∈ sliced := by simp [slices]
  have error_mem : error ∈ sliced := by simp [slices]
  exact ⟨slices, joined, ⟨slot_mem, alone slot slot_mem⟩, ⟨error_mem, alone error error_mem⟩⟩

end Stencil
