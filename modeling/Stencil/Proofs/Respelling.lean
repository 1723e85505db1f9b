import Mathlib.Data.List.Forall2
import Stencil.Proofs.Pieces

/-!
# Texts in another spelling

A respelling writes each character as one that plays the same part in another dialect, perhaps with
characters behind it that play no part. So tokens are written as tokens, or as tokens with single
characters behind them, and delimiters stay as they are. Main statement: the segments of the written
text are the written segments of the text, each of them behind the written text in front of it.

## Implementation notes

An escape sequence may take any character along. In the other spelling it takes only the first of
the characters that stand for this one, and the others follow on their own.
-/

namespace Stencil

/-- A way to write the texts of one dialect in another one. A character is an escape or part of a
delimiter exactly if the first one written for it is, and the others are plain. None of them is
blank unless the character is. -/
structure Respelling (d d' : Dialect) where
  first : Char → Char
  more : Char → List Char
  first_eq_escape_iff (c : Char) : first c = d'.escape ↔ c = d.escape
  first_eq_iff {x : Char} (delimiter : isDelimiter x = true) (c : Char) : first c = x ↔ c = x
  more_eq_nil {c : Char} : c = d.escape ∨ isDelimiter c = true → more c = []
  more_plain {c x : Char} : x ∈ more c → x ≠ d'.escape ∧ isDelimiter x = false
  isBlank_eq {c x : Char} : x ∈ first c :: more c → Text.isBlank x = Text.isBlank c

/-- What the end of a text leaves of a phrase is made of characters of the text. -/
theorem Phrase.subset_cut {e : Char} {z : Zone} {cs m : List Char} (h : Phrase e z cs m)
    (before w : List Char) : (String.ofList (m ++ w)).toList ⊆ before ++ (cs ++ w) := by
  rw [String.toList_ofList]
  refine List.append_subset.mpr ⟨List.Subset.trans h.subset ?_, ?_⟩ <;> simp

namespace Respelling

variable {d d' : Dialect} (r : Respelling d d')

/-- The characters that are written for some characters. -/
def spell (cs : List Char) : List Char := cs.flatMap fun c => r.first c :: r.more c

/-- The text that is written for a text. -/
def write (s : String) : String := .ofList (r.spell s.toList)

@[simp] theorem spell_nil : r.spell [] = [] := rfl

@[simp] theorem spell_cons (c : Char) (cs : List Char) :
    r.spell (c :: cs) = r.first c :: r.more c ++ r.spell cs := rfl

theorem spell_append (cs ds : List Char) : r.spell (cs ++ ds) = r.spell cs ++ r.spell ds :=
  List.flatMap_append

@[simp] theorem write_ofList (cs : List Char) : r.write (.ofList cs) = .ofList (r.spell cs) := by
  rw [write, String.toList_ofList]

@[simp] theorem first_escape : r.first d.escape = d'.escape :=
  (r.first_eq_escape_iff d.escape).mpr rfl

@[simp] theorem more_escape : r.more d.escape = [] := r.more_eq_nil (.inl rfl)

theorem first_delimiter {c : Char} (delimiter : isDelimiter c = true) : r.first c = c :=
  (r.first_eq_iff delimiter c).mpr rfl

@[simp] theorem first_lead (z : Zone) : r.first z.lead = z.lead :=
  r.first_delimiter z.isDelimiter_lead

@[simp] theorem more_lead (z : Zone) : r.more z.lead = [] :=
  r.more_eq_nil (.inr z.isDelimiter_lead)

@[simp] theorem first_follow (z : Zone) : r.first z.follow = z.follow :=
  r.first_delimiter z.isDelimiter_follow

@[simp] theorem more_follow (z : Zone) : r.more z.follow = [] :=
  r.more_eq_nil (.inr z.isDelimiter_follow)

@[simp] theorem spell_delimiter (z : Zone) : r.spell z.delimiter = z.delimiter := by
  simp [Zone.delimiter_eq]

/-- Trimming a text and writing it go in either order. -/
theorem trim_write (s : String) : Text.trim (r.write s) = r.write (Text.trim s) := by
  have trimmed := Text.trimBoth_flatMap (fun _ _ => r.isBlank_eq)
    (fun c => List.cons_ne_nil (r.first c) (r.more c)) s.toList
  rw [← String.toList_inj, Text.toList_trim, write, write, String.toList_ofList,
    String.toList_ofList, Text.toList_trim]
  exact trimmed

/-- The characters behind the first one are plain. -/
theorem phrase_more (z : Zone) (c : Char) : Phrase d'.escape z (r.more c) (r.more c) := by
  apply Phrase.of_plain
  intro x member
  obtain ⟨escape, delimiter⟩ := r.more_plain member
  refine ⟨escape, ?_⟩
  rintro rfl
  rw [z.isDelimiter_lead] at delimiter
  cases delimiter

/-- A token that ends in the first character written for `c` goes on with the others. -/
theorem phrase_plain {z : Zone} (cs : List Char) {c : Char}
    (complete : (Token.plain (cs ++ [r.first c])).Complete d'.escape z) :
    Phrase d'.escape z (cs ++ r.spell [c]) (cs ++ r.spell [c]) := by
  have token : Phrase d'.escape z (cs ++ [r.first c]) (cs ++ [r.first c]) :=
    .single complete nofun
  have whole := token.append (r.phrase_more z c)
  rw [List.append_assoc] at whole
  rwa [spell_cons, spell_nil, List.append_nil]

/-- A token is written as a phrase, which stands for what the token stands for, written. -/
theorem phrase_token {z : Zone} {t : Token} (complete : t.Complete d.escape z)
    (inner : t ≠ .boundary) :
    Phrase d'.escape z (r.spell (t.spelling d.escape z)) (r.spell t.meaning) := by
  simp only [Token.spelling, Token.meaning]
  cases complete with
  | escape =>
      have token : Phrase d'.escape z [d'.escape, d'.escape] [d'.escape] :=
        .single .escape (by simp)
      simpa using token
  | delimiter y =>
      have token : Phrase d'.escape z (d'.escape :: y.delimiter) y.delimiter :=
        .single (.delimiter y) (by simp)
      simpa using token
  | @escapedLead y c follow =>
      have next : r.first c ≠ y.follow := mt (r.first_eq_iff y.isDelimiter_follow c).mp follow
      simpa using r.phrase_plain [d'.escape, y.lead] (.escapedLead y next)
  | @escapedPlain c escape lead =>
      have notEscape : r.first c ≠ d'.escape := mt (r.first_eq_escape_iff c).mp escape
      have notLead (y : Zone) : r.first c ≠ y.lead :=
        mt (r.first_eq_iff y.isDelimiter_lead c).mp (lead y)
      simpa using r.phrase_plain [d'.escape] (.escapedPlain notEscape notLead)
  | boundary => exact absurd rfl inner
  | @lead c follow =>
      have next : r.first c ≠ z.follow := mt (r.first_eq_iff z.isDelimiter_follow c).mp follow
      simpa using r.phrase_plain [z.lead] (.lead next)
  | @single c escape lead =>
      have notEscape : r.first c ≠ d'.escape := mt (r.first_eq_escape_iff c).mp escape
      have notLead : r.first c ≠ z.lead := mt (r.first_eq_iff z.isDelimiter_lead c).mp lead
      simpa using r.phrase_plain [] (.single notEscape notLead)

/-- A phrase is written as a phrase. -/
theorem phrase {z : Zone} {cs m : List Char} (h : Phrase d.escape z cs m) :
    Phrase d'.escape z (r.spell cs) (r.spell m) := by
  induction h with
  | nil => exact .nil
  | cons complete inner _ ih =>
      rw [spell_append, spell_append]
      exact (r.phrase_token complete inner).append ih

/-- What is withheld of a text is withheld of the written text. -/
theorem withheld {z : Zone} {w : List Char} (h : Withheld d.escape z w) :
    Withheld d'.escape z (r.spell w) := by
  cases h with
  | nothing => exact .nothing
  | escape => simpa using Withheld.escape
  | escapedLead y => simpa using Withheld.escapedLead y
  | lead => simpa using Withheld.lead

/-- A segment of a text and the one of the written text that belongs to it. Both lie behind the same
part of the text, which is written in front of the second one. -/
inductive Writes (text : List Char) : Segment → Segment → Prop where
  | closed (z : Zone) {before : List Char} {content : String} :
      before <+: text → content.toList ⊆ text →
      Writes text (z.segment content (.behind d.tab before))
        (z.segment (r.write content) (.behind d'.tab (r.spell before)))
  | unclosed {before : List Char} {content : String} :
      before <+: text → content.toList ⊆ text →
      Writes text (.unclosed content (.behind d.tab before))
        (.unclosed (r.write content) (.behind d'.tab (r.spell before)))

/-- The pieces of a written text are the written pieces of the text. -/
theorem exists_pieces {before cs : List Char} {z : Zone} {segments : List Segment}
    (h : Pieces d before z cs segments) :
    ∃ others, Pieces d' (r.spell before) z (r.spell cs) others ∧
      List.Forall₂ (r.Writes (before ++ cs)) segments others := by
  induction h with
  | @closed before cs m rest z segments phrase _ ih =>
      obtain ⟨others, pieces, later⟩ := ih
      simp only [spell_append, spell_delimiter] at pieces ⊢
      refine ⟨_, .closed (r.phrase phrase) pieces, ?_⟩
      rw [← write_ofList]
      refine .cons (.closed z (List.prefix_append _ _) ?_) (by simpa using later)
      rw [String.toList_ofList]
      exact List.Subset.trans phrase.subset (by simp)
  | @static before cs m w phrase withheld =>
      have content : (String.ofList (m ++ w)).toList ⊆ before ++ (cs ++ w) :=
        phrase.subset_cut before w
      rw [spell_append]
      refine ⟨_, .static (r.phrase phrase) (r.withheld withheld), ?_⟩
      rw [← spell_append, ← write_ofList]
      exact .cons (.closed .static (List.prefix_append _ _) content) .nil
  | @slot before cs m w phrase withheld =>
      have content : (String.ofList (m ++ w)).toList ⊆ before ++ (cs ++ w) :=
        phrase.subset_cut before w
      have whole : before ++ cs ++ w <+: before ++ (cs ++ w) := by simp
      rw [spell_append]
      refine ⟨_, .slot (r.phrase phrase) (r.withheld withheld), ?_⟩
      rw [← spell_append, ← spell_append, ← spell_append, ← write_ofList]
      exact .cons (.unclosed (List.prefix_append _ _) content)
        (.cons (.closed .static whole (List.nil_subset _)) .nil)

end Respelling

namespace Dialect

variable {d d' : Dialect} (r : Respelling d d') (text : String)

/-- The segments of a written text are the written segments of the text. -/
theorem forall₂_write :
    List.Forall₂ (r.Writes text.toList) (d.segments text) (d'.segments (r.write text)) := by
  obtain ⟨others, pieces, writes⟩ := r.exists_pieces (Pieces.of_segments d text)
  rw [Respelling.write, pieces.segments_ofList]
  exact writes

/-- If `f` makes the written segment of each one, it makes the segments of the written text. -/
theorem segments_write {f : Segment → Segment}
    (makes : ∀ s t, r.Writes text.toList s t → t = f s) :
    d'.segments (r.write text) = (d.segments text).map f := by
  have same : List.Forall₂ Eq ((d.segments text).map f) (d'.segments (r.write text)) := by
    rw [List.forall₂_map_left_iff]
    exact (forall₂_write r text).imp fun s t writes => (makes s t writes).symm
  rw [List.forall₂_eq_eq_eq] at same
  exact same.symm

end Dialect

end Stencil
