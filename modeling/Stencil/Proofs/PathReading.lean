import Mathlib.Computability.Language
import Mathlib.Data.Char
import Stencil.Proofs.Resolution

/-!
# Which slots hold a path

A path can be told in two ways from other texts: it matches a regular expression, names with a dot
between any two of them, or all pieces between its dots are names. Main statement: the reader of
paths accepts exactly the slots whose content is a path in either way, and the part that it makes of
one goes along the pieces between the dots.

## Implementation notes

The regular expression is given as a language over ranges of characters, so nothing depends on which
characters count as letters.
-/

namespace Stencil

open Computability

/-- The texts of one character from some ranges. -/
def oneFrom (ranges : List (Char × Char)) : Language Char :=
  {w | ∃ c, (∃ r ∈ ranges, r.1 ≤ c ∧ c ≤ r.2) ∧ w = [c]}

/-- The names: a letter or an underscore, then letters, digits and underscores. -/
def nameLanguage : Language Char :=
  oneFrom [('A', 'Z'), ('a', 'z'), ('_', '_')] *
    (oneFrom [('A', 'Z'), ('a', 'z'), ('0', '9'), ('_', '_')])∗

/-- The texts of paths: a name, then dots with a name behind each. -/
def pathLanguage : Language Char :=
  nameLanguage * (oneFrom [('.', '.')] * nameLanguage)∗

theorem between_self_iff {c d : Char} : d ≤ c ∧ c ≤ d ↔ c = d := by
  rw [and_comm, le_antisymm_iff]

theorem isNameStart_iff {c : Char} :
    isNameStart c = true ↔ ∃ r ∈ [('A', 'Z'), ('a', 'z'), ('_', '_')], r.1 ≤ c ∧ c ≤ r.2 := by
  rw [isNameStart, Bool.or_eq_true, beq_iff_eq, isAlpha_iff]
  simp [between_self_iff, or_assoc]

theorem isNameChar_iff {c : Char} :
    isNameChar c = true ↔
      ∃ r ∈ [('A', 'Z'), ('a', 'z'), ('0', '9'), ('_', '_')], r.1 ≤ c ∧ c ≤ r.2 := by
  rw [isNameChar_iff_ranges]
  simp [between_self_iff]

theorem mem_oneFrom_kstar {ranges : List (Char × Char)} {w : List Char} :
    w ∈ (oneFrom ranges)∗ ↔ ∀ c ∈ w, ∃ r ∈ ranges, r.1 ≤ c ∧ c ≤ r.2 := by
  rw [Language.mem_kstar]
  constructor
  · rintro ⟨words, rfl, members⟩ c member
    obtain ⟨word, mem, inner⟩ := List.mem_flatten.mp member
    obtain ⟨c', inside, rfl⟩ := members word mem
    obtain rfl := List.mem_singleton.mp inner
    exact inside
  · intro inside
    refine ⟨w.map ([·]), ?_, ?_⟩
    · rw [← List.flatMap_def, List.flatMap_singleton']
    intro word member
    obtain ⟨c, mem, rfl⟩ := List.mem_map.mp member
    exact ⟨c, inside c mem, rfl⟩

theorem mem_nameLanguage_iff {w : List Char} : w ∈ nameLanguage ↔ NameChars w := by
  rw [nameLanguage, Language.mem_mul]
  constructor
  · rintro ⟨_, ⟨c, start, rfl⟩, cs, rest, rfl⟩
    rw [mem_oneFrom_kstar] at rest
    exact .mk (isNameStart_iff.mpr start) fun d member => isNameChar_iff.mpr (rest d member)
  · rintro ⟨start, rest⟩
    refine ⟨_, ⟨_, isNameStart_iff.mp start, rfl⟩, _, ?_, rfl⟩
    rw [mem_oneFrom_kstar]
    exact fun d member => isNameChar_iff.mp (rest d member)

theorem mem_dotted_iff {w : List Char} :
    w ∈ oneFrom [('.', '.')] * nameLanguage ↔ ∃ name, NameChars name ∧ '.' :: name = w := by
  rw [Language.mem_mul]
  constructor
  · rintro ⟨_, ⟨c, ⟨r, member, bounds⟩, rfl⟩, name, isName, rfl⟩
    obtain rfl := List.mem_singleton.mp member
    obtain rfl := between_self_iff.mp bounds
    exact ⟨name, mem_nameLanguage_iff.mp isName, rfl⟩
  · rintro ⟨name, isName, rfl⟩
    have dot : ['.'] ∈ oneFrom [('.', '.')] :=
      ⟨'.', ⟨_, List.mem_singleton_self _, between_self_iff.mpr rfl⟩, rfl⟩
    exact ⟨_, dot, name, mem_nameLanguage_iff.mpr isName, rfl⟩

/-- Names joined by dots are the first name and then a dot in front of each other one. -/
theorem intercalate_dot_cons (name : List Char) (names : List (List Char)) :
    ['.'].intercalate (name :: names) = name ++ (names.map ('.' :: ·)).flatten := by
  induction names generalizing name with
  | nil => simp
  | cons next names ih =>
      rw [List.intercalate_cons_cons, ih, List.map_cons, List.flatten_cons]
      simp

/-- A text matches the regular expression exactly if it is some names joined by dots. Each word of
the repetition is a dot with a name, so without the dots these words are the names. -/
theorem mem_pathLanguage_iff {w : List Char} :
    w ∈ pathLanguage ↔
      ∃ name names, ['.'].intercalate (name :: names) = w ∧ ∀ n ∈ name :: names, NameChars n := by
  rw [pathLanguage, Language.mem_mul]
  constructor
  · rintro ⟨name, isName, _, dotted, rfl⟩
    obtain ⟨words, rfl, members⟩ := Language.mem_kstar.mp dotted
    choose! names areNames spelled using fun word member => mem_dotted_iff.mp (members word member)
    have undotted : (words.map names).map ('.' :: ·) = words := by
      rw [List.map_map]
      exact (List.map_congr_left spelled).trans (List.map_id words)
    refine ⟨name, words.map names, ?_, ?_⟩
    · rw [intercalate_dot_cons, undotted]
    · refine List.forall_mem_cons.mpr ⟨mem_nameLanguage_iff.mp isName, ?_⟩
      exact List.forall_mem_map.mpr areNames
  · rintro ⟨name, names, rfl, areNames⟩
    obtain ⟨isName, others⟩ := List.forall_mem_cons.mp areNames
    refine ⟨name, mem_nameLanguage_iff.mpr isName, _, ?_, (intercalate_dot_cons name names).symm⟩
    refine Language.mem_kstar.mpr ⟨_, rfl, ?_⟩
    intro word member
    obtain ⟨n, mem, rfl⟩ := List.mem_map.mp member
    exact mem_dotted_iff.mpr ⟨n, others n mem, rfl⟩

/-- A text matches the regular expression exactly if all its pieces are names. -/
theorem mem_pathLanguage_iff_splitOn {w : List Char} :
    w ∈ pathLanguage ↔ ∀ piece ∈ w.splitOn '.', NameChars piece := by
  rw [mem_pathLanguage_iff]
  constructor
  · rintro ⟨name, names, rfl, areNames⟩
    rw [splitOn_intercalate_of_names (List.cons_ne_nil name names) areNames]
    exact areNames
  · intro areNames
    obtain ⟨name, names, cut⟩ := List.exists_cons_of_ne_nil (List.splitOn_ne_nil '.' w)
    rw [cut] at areNames
    refine ⟨name, names, ?_, areNames⟩
    rw [← cut, List.intercalate_splitOn]

namespace Path

theorem toList_mem_pathLanguage_iff {s : String} :
    s.toList ∈ pathLanguage ↔ ∀ name ∈ dotPieces s, NameChars name.toList := by
  rw [mem_pathLanguage_iff_splitOn, ← map_toList_dotPieces, List.forall_mem_map]

/-- How a part goes along a path: along its rest from the value of its head, with the names of what
is missing on the way. -/
structure Walks (host : Host) (content : String) (p : Path) (part : Part) : Prop where
  found {ctx : Context} {u v : Value} :
    FirstBinds ctx.providers p.head u → host.Leads u p.rest v → part ctx = pure (filled host v)
  unknown {ctx : Context} :
    (∀ q ∈ ctx.providers, q.lookup p.head = none) →
    part ctx = Traced.fail (.unbound p.head ctx.template)
  missing {ctx : Context} {u : Value} :
    FirstBinds ctx.providers p.head u → host.Stuck u p.rest →
    part ctx = Traced.fail (.unbound content ctx.template)

/-- The part of a path goes along the path. -/
theorem walks_part (host : Host) (p : Path) : p.Walks host p.spelling (p.part host) where
  found binds leads := part_of_resolve_eq_ok (resolve_eq_ok_iff.mpr ⟨_, binds, leads⟩)
  unknown free := part_of_resolve_eq_error (resolve_eq_error_iff.mpr ⟨_, .head free, rfl⟩)
  missing binds stuck := by
    obtain ⟨before, name, after, v, split, leads, stops⟩ := stuck
    apply part_of_resolve_eq_error
    exact resolve_eq_error_iff.mpr ⟨_, .part binds split leads stops, rfl⟩

/-- The reader accepts exactly the slots whose pieces are all names, which are the ones that match
the regular expression, and refuses each other slot where it starts. The part of an accepted slot
goes along the pieces, and they join to the content. -/
theorem reader_iff_pieces (host : Host) (slot : Segment) :
    ((∃ part, reader host slot = pure part) ↔
      ∀ name ∈ dotPieces slot.content, NameChars name.toList) ∧
    (slot.content.toList ∈ pathLanguage ↔
      ∀ name ∈ dotPieces slot.content, NameChars name.toList) ∧
    (reader host slot = Traced.fail (.slotSyntax slot.start
        s!"invalid slot name {Text.quoted slot.content}" (some hint)) ↔
      ∃ name ∈ dotPieces slot.content, ¬ NameChars name.toList) ∧
    ∀ part, reader host slot = pure part →
      ∃ p : Path, p.names = dotPieces slot.content ∧ p.spelling = slot.content ∧
        p.Walks host slot.content part := by
  refine ⟨?accepts, toList_mem_pathLanguage_iff, ?refuses, ?walks⟩
  case accepts =>
    rw [← exists_spells_iff]
    constructor
    · rintro ⟨part, accepted⟩
      obtain ⟨p, spells, _⟩ := reader_outcome_eq_ok_iff.mp (congrArg Traced.outcome accepted)
      exact ⟨p, spells⟩
    · rintro ⟨p, spells⟩
      exact ⟨p.part host, reader_of_spells spells⟩
  case refuses =>
    rw [reader_eq_fail_iff, ← not_exists, exists_spells_iff]
    simp only [not_forall, exists_prop]
  case walks =>
    intro part accepted
    obtain ⟨p, spells, rfl⟩ := reader_outcome_eq_ok_iff.mp (congrArg Traced.outcome accepted)
    have walks := p.walks_part host
    rw [spells.1] at walks
    exact ⟨p, (spells_iff.mp spells).1, spells.1, walks⟩

/-- Two names with a dot between them, over a dictionary that has no entry for the second one. -/
theorem reader_iff_pieces_two_names :
    let slot : Segment := .slot "a.b" ⟨1, 3, 3⟩
    reader .bare slot = pure (part .bare ⟨"a", ["b"]⟩) ∧
    part .bare ⟨"a", ["b"]⟩ ⟨some "t", [[("a", .dict [])]]⟩ =
      Traced.fail (.unbound "a.b" (some "t")) := by
  intro slot
  have spells : Spells ⟨"a", ["b"]⟩ slot.content := ofString?_eq_some_iff.mp (by decide)
  have accepted : reader .bare slot = pure (part .bare ⟨"a", ["b"]⟩) := reader_of_spells spells
  refine ⟨accepted, ?_⟩
  obtain ⟨⟨head, rest⟩, pieces, _, walks⟩ := (reader_iff_pieces .bare slot).2.2.2 _ accepted
  have cut : dotPieces slot.content = ["a", "b"] := by decide
  obtain ⟨rfl, rfl⟩ := List.cons.inj (pieces.trans cut)
  have stops : ∀ w, ¬ Host.bare.Selects (.dict []) "b" w := by
    intro w selects
    simpa [Host.select?] using Host.select?_eq_some_iff.mpr selects
  have binds : FirstBinds [[("a", .dict [])]] "a" (.dict []) :=
    ⟨[], _, [], rfl, rfl, List.forall_mem_nil _⟩
  exact walks.missing binds (Host.stuck_cons_of_forall stops [])

end Path

end Stencil
