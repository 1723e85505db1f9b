import Stencil.Path

/-!
# The texts that spell a path

A text spells a path if it is names with dots between them. A name is a letter or an underscore and
then letters, digits and underscores, all of ASCII. Main statements: the one pass over a text, with
the cut at its dots, finds exactly the path that the text spells, and the reader of slots makes the
part of this path.

## Implementation notes

The cut at the dots is shown to be the one for lists, so its laws come from the library.
-/

namespace Stencil

/-- The characters of a name. -/
inductive NameChars : List Char → Prop where
  | mk {c : Char} {cs : List Char} :
      isNameStart c = true → (∀ d ∈ cs, isNameChar d = true) → NameChars (c :: cs)

theorem nameChars_cons_iff {c : Char} {cs : List Char} :
    NameChars (c :: cs) ↔ isNameStart c = true ∧ ∀ d ∈ cs, isNameChar d = true := by
  constructor
  · rintro ⟨start, rest⟩
    exact ⟨start, rest⟩
  · rintro ⟨start, rest⟩
    exact ⟨start, rest⟩

theorem not_nameChars_nil : ¬ NameChars [] := nofun

/-- A dot stands between names and never in one. -/
theorem NameChars.dot_notMem {cs : List Char} (h : NameChars cs) : '.' ∉ cs := by
  obtain ⟨start, rest⟩ := h
  intro member
  rcases List.mem_cons.mp member with rfl | member
  · exact absurd start (by decide)
  · exact absurd (rest _ member) (by decide)

/-- Cutting at the dots gives back the names that were joined. -/
theorem splitOn_intercalate_of_names {names : List (List Char)} (some_name : names ≠ [])
    (areNames : ∀ name ∈ names, NameChars name) :
    (['.'].intercalate names).splitOn '.' = names :=
  List.splitOn_intercalate '.' (fun name member => (areNames name member).dot_notMem) some_name

theorem isAlpha_iff {c : Char} :
    c.isAlpha = true ↔ ('A' ≤ c ∧ c ≤ 'Z') ∨ ('a' ≤ c ∧ c ≤ 'z') := by
  have ranges : c.isAlpha = (decide ('A' ≤ c ∧ c ≤ 'Z') || decide ('a' ≤ c) && decide (c ≤ 'z')) :=
    rfl
  rw [ranges, Bool.or_eq_true, Bool.and_eq_true, decide_eq_true_eq, decide_eq_true_eq,
    decide_eq_true_eq]

theorem isDigit_iff {c : Char} : c.isDigit = true ↔ '0' ≤ c ∧ c ≤ '9' :=
  Char.isDigit_iff_toNat

theorem isNameChar_iff_ranges {c : Char} :
    isNameChar c = true ↔
      ('A' ≤ c ∧ c ≤ 'Z') ∨ ('a' ≤ c ∧ c ≤ 'z') ∨ ('0' ≤ c ∧ c ≤ '9') ∨ c = '_' := by
  rw [isNameChar, Char.isAlphanum, Bool.or_eq_true, Bool.or_eq_true, beq_iff_eq, isAlpha_iff,
    isDigit_iff, or_assoc, or_assoc]

/-- The characters of names lie between the digits and the small letters. -/
theorem toNat_of_isNameChar {c : Char} (h : isNameChar c = true) :
    0x30 ≤ c.toNat ∧ c.toNat ≤ 0x7A := by
  have bounds (a b : Char) : a ≤ c ∧ c ≤ b ↔ a.toNat ≤ c.toNat ∧ c.toNat ≤ b.toNat := Iff.rfl
  simp only [isNameChar_iff_ranges, bounds, Char.reduceToNat] at h
  rcases h with upper | lower | digit | rfl
  · omega
  · omega
  · omega
  · decide

theorem isBlank_of_isNameChar {c : Char} (h : isNameChar c = true) : Text.isBlank c = false := by
  obtain ⟨low, high⟩ := toNat_of_isNameChar h
  simp only [Text.isBlank, Bool.or_eq_false_iff, Bool.and_eq_false_iff, decide_eq_false_iff_not,
    beq_eq_false_iff_ne]
  omega

theorem isNameChar_of_isNameStart {c : Char} (h : isNameStart c = true) : isNameChar c = true := by
  simp only [isNameStart, isNameChar, Char.isAlphanum, Bool.or_eq_true] at h ⊢
  rcases h with letter | underscore
  · exact .inl (.inl letter)
  · exact .inr underscore

theorem NameChars.forall_isNameChar {cs : List Char} (h : NameChars cs) :
    ∀ c ∈ cs, isNameChar c = true := by
  obtain ⟨start, rest⟩ := h
  exact List.forall_mem_cons.mpr ⟨isNameChar_of_isNameStart start, rest⟩

namespace Path

/-- The path that a text spells: its names are well formed, and the text joins them with dots. -/
def Spells (p : Path) (s : String) : Prop :=
  p.spelling = s ∧ ∀ name ∈ p.names, NameChars name.toList

/-- One pass decides whether all pieces between the dots are names; behind the start of a name,
whether its piece goes on like one and the other pieces are names. -/
theorem scan_iff (cs : List Char) :
    (startsName cs = true ↔
      NameChars (cutAt '.' cs).1 ∧ ∀ piece ∈ (cutAt '.' cs).2, NameChars piece) ∧
    (continuesName cs = true ↔
      (∀ d ∈ (cutAt '.' cs).1, isNameChar d = true) ∧
        ∀ piece ∈ (cutAt '.' cs).2, NameChars piece) := by
  induction cs with
  | nil => simp [startsName, continuesName, cutAt, not_nameChars_nil]
  | cons c cs ih =>
      obtain ⟨starts, continues⟩ := ih
      by_cases dot : c = '.'
      · have plain : isNameStart '.' = false := by decide
        subst dot
        simp [startsName, continuesName, cutAt, plain, starts, not_nameChars_nil]
      · simp [startsName, continuesName, cutAt, dot, continues, nameChars_cons_iff, and_assoc]

/-- The pieces are those of the cut for lists. -/
theorem cons_cutAt (separator : Char) (cs : List Char) :
    (cutAt separator cs).1 :: (cutAt separator cs).2 = cs.splitOn separator := by
  have apart := List.splitOn_intercalate separator (not_mem_of_mem_cutAt separator cs)
    (List.cons_ne_nil _ _)
  rw [intercalate_cutAt] at apart
  exact apart.symm

/-- The first piece is all that stands in front of the separator. -/
theorem cutAt_fst (separator : Char) (cs : List Char) :
    (cutAt separator cs).1 = cs.takeWhile (· != separator) := by
  induction cs with
  | nil => rfl
  | cons c cs ih =>
      by_cases h : c = separator
      · simp [cutAt, h]
      · simp [cutAt, h, ih]

/-- The pieces of a text between its dots. -/
def dotPieces (s : String) : List String := (s.toList.splitOn '.').map .ofList

theorem map_toList_dotPieces (s : String) :
    (dotPieces s).map String.toList = s.toList.splitOn '.' := by
  simp [dotPieces, Function.comp_def]

theorem dotPieces_ne_nil (s : String) : dotPieces s ≠ [] := by
  rw [dotPieces, ne_eq, List.map_eq_nil_iff]
  exact List.splitOn_ne_nil _ _

/-- Joining the pieces of a text with dots gives the text. -/
theorem intercalate_dotPieces (s : String) : ".".intercalate (dotPieces s) = s := by
  rw [← String.toList_inj, String.toList_intercalate, map_toList_dotPieces]
  exact List.intercalate_splitOn '.'

example : dotPieces ".a..b." = ["", "a", "", "b", ""] := by decide

/-- The pieces of joined names are these names. -/
theorem dotPieces_intercalate {names : List String} (some_name : names ≠ [])
    (areNames : ∀ name ∈ names, NameChars name.toList) :
    dotPieces (".".intercalate names) = names := by
  have cut : (".".intercalate names).toList.splitOn '.' = names.map String.toList := by
    rw [String.toList_intercalate]
    apply splitOn_intercalate_of_names
    · simpa using some_name
    · exact List.forall_mem_map.mpr areNames
  rw [dotPieces, cut, List.map_map]
  simp [Function.comp_def]

/-- A text spells a path exactly if all its pieces are names, and then these are the names of the
path. -/
theorem spells_iff {p : Path} {s : String} :
    p.Spells s ↔ p.names = dotPieces s ∧ ∀ name ∈ dotPieces s, NameChars name.toList := by
  constructor
  · rintro ⟨rfl, areNames⟩
    have cut : dotPieces p.spelling = p.names := dotPieces_intercalate (by simp [names]) areNames
    rw [cut]
    exact ⟨rfl, areNames⟩
  · rintro ⟨cut, areNames⟩
    rw [← cut] at areNames
    refine ⟨?_, areNames⟩
    rw [spelling, cut, intercalate_dotPieces]

theorem exists_spells_iff {s : String} :
    (∃ p : Path, p.Spells s) ↔ ∀ name ∈ dotPieces s, NameChars name.toList := by
  constructor
  · rintro ⟨p, spells⟩
    exact (spells_iff.mp spells).2
  · intro areNames
    obtain ⟨head, rest, cut⟩ := List.exists_cons_of_ne_nil (dotPieces_ne_nil s)
    exact ⟨⟨head, rest⟩, spells_iff.mpr ⟨cut.symm, areNames⟩⟩

/-- A text is read as the path that it spells, and as none if it spells none. -/
theorem ofString?_eq_some_iff {s : String} {p : Path} : ofString? s = some p ↔ p.Spells s := by
  have pieces : dotPieces s =
      .ofList (cutAt '.' s.toList).1 :: (cutAt '.' s.toList).2.map .ofList := by
    rw [dotPieces, ← cons_cutAt, List.map_cons]
  have scan : startsName s.toList = true ↔ ∀ name ∈ dotPieces s, NameChars name.toList := by
    rw [(scan_iff s.toList).1, pieces]
    simp
  rw [spells_iff, ← scan, pieces, names, ofString?]
  split
  · rename_i path
    simp [Path.ext_iff, path, eq_comm]
  · rename_i noPath
    simp [noPath]

/-- A name without dots spells the path of that name alone. -/
theorem spells_of_nameChars {name : String} (h : NameChars name.toList) :
    (⟨name, []⟩ : Path).Spells name := by
  constructor
  · rw [spelling, Path.names, String.intercalate_singleton]
  · intro other member
    obtain rfl := List.mem_singleton.mp member
    exact h

theorem ofString?_eq_none_iff {s : String} : ofString? s = none ↔ ∀ p : Path, ¬ p.Spells s := by
  simp only [Option.eq_none_iff_forall_ne_some, ne_eq, ofString?_eq_some_iff]

variable {host : Host} {slot : Segment}

theorem reader_of_spells {p : Path} (spells : p.Spells slot.content) :
    reader host slot = pure (p.part host) := by
  rw [reader, ofString?_eq_some_iff.mpr spells]

theorem reader_of_not_spells (free : ∀ p : Path, ¬ p.Spells slot.content) :
    reader host slot = Traced.fail (.slotSyntax slot.start
      s!"invalid slot name {Text.quoted slot.content}" (some hint)) := by
  rw [reader, ofString?_eq_none_iff.mpr free]

/-- The reader makes the part of a path from a slot that spells it, and no other part. -/
theorem reader_outcome_eq_ok_iff {part : Part} :
    (reader host slot).outcome = .ok part ↔
      ∃ p : Path, p.Spells slot.content ∧ p.part host = part := by
  constructor
  · intro accepted
    by_cases path : ∃ p : Path, p.Spells slot.content
    · obtain ⟨p, spells⟩ := path
      rw [reader_of_spells spells] at accepted
      exact ⟨p, spells, Except.ok.inj accepted⟩
    · rw [reader_of_not_spells (not_exists.mp path)] at accepted
      cases accepted
  · rintro ⟨p, spells, rfl⟩
    rw [reader_of_spells spells]
    rfl

theorem reader_eq_fail_iff :
    reader host slot = Traced.fail (.slotSyntax slot.start
        s!"invalid slot name {Text.quoted slot.content}" (some hint)) ↔
      ∀ p : Path, ¬ p.Spells slot.content := by
  constructor
  · intro refused p spells
    rw [reader_of_spells spells] at refused
    cases refused
  · exact reader_of_not_spells

end Path

end Stencil
