import Mathlib.Data.List.Induction
import Mathlib.Logic.Equiv.Basic
import Stencil.Proofs.Respelling

/-!
# Other escape characters

Two dialects with tabs of the same width differ in their escape character only. Exchanging the two
characters in a text is a respelling from one dialect to the other, since neither of them is blank
or part of a delimiter. Main statement: with the characters exchanged, a text has the same segments
in the other dialect with the characters exchanged in their contents.

## Implementation notes

The words of a message about an open slot may hold either character, and are not exchanged.
-/

namespace Stencil

/-- The text with two characters in each other's places. -/
def Text.exchange (a b : Char) (s : String) : String :=
  .ofList (s.toList.map (Equiv.swap a b))

/-- Nothing is exchanged in a text that holds neither of the characters. -/
theorem Text.exchange_eq_self {a b : Char} {s : String} (without_a : a ∉ s.toList)
    (without_b : b ∉ s.toList) : exchange a b s = s := by
  have fixed : s.toList.map (Equiv.swap a b) = s.toList.map id := by
    apply List.map_congr_left
    intro c member
    apply Equiv.swap_apply_of_ne_of_ne
    · exact ne_of_mem_of_not_mem member without_a
    · exact ne_of_mem_of_not_mem member without_b
  rw [exchange, fixed, List.map_id, String.ofList_toList]

/-- A segment and the one that has the content `rewrite` makes of its content. For an open slot this
is the part that could be read, and not the message about it. -/
inductive Segment.Rewritten (rewrite : String → String) : Segment → Segment → Prop where
  | static (content : String) (start : Location) :
      Rewritten rewrite (.static content start) (.static (rewrite content) start)
  | slot (content : String) (start : Location) :
      Rewritten rewrite ⟨.slot, content, start⟩ ⟨.slot, rewrite content, start⟩
  | unclosed (content : String) (start : Location) :
      Rewritten rewrite (.unclosed content start) (.unclosed (rewrite content) start)

/-- A character that is not blank takes one column. -/
theorem Location.after_visible (tab : Int) (l : Location) {c : Char}
    (visible : Text.isBlank c = false) : l.after tab c = ⟨l.row, l.column + 1, l.offset + 1⟩ := by
  have feed : c ≠ '\n' := by
    rintro rfl
    cases visible
  have back : c ≠ '\r' := by
    rintro rfl
    cases visible
  have wide : c ≠ '\t' := by
    rintro rfl
    cases visible
  simp [after, feed, back, wide]

namespace Respelling

variable (d d' : Dialect)

/-- The escape characters of the two dialects are exchanged. -/
def exchange : Respelling d d' where
  first := Equiv.swap d.escape d'.escape
  more _ := []
  first_eq_escape_iff c := by
    rw [Equiv.swap_apply_eq_iff, Equiv.swap_apply_right]
  first_eq_iff {x} delimiter c := by
    rw [Equiv.swap_apply_eq_iff, Equiv.swap_apply_of_ne_of_ne (d.ne_escape_of_isDelimiter delimiter)
      (d'.ne_escape_of_isDelimiter delimiter)]
  more_eq_nil _ := rfl
  more_plain member := by cases member
  isBlank_eq {c x} member := by
    obtain rfl := List.mem_singleton.mp member
    apply Equiv.apply_swap_eq_self
    rw [d.escape_visible, d'.escape_visible]

theorem write_exchange (s : String) :
    (exchange d d').write s = Text.exchange d.escape d'.escape s := by
  rw [write, Text.exchange, List.map_eq_flatMap]
  rfl

/-- Exchanging characters that are not blank moves no location. -/
theorem behind_exchange (tab : Int) (cs : List Char) :
    Location.behind tab ((exchange d d').spell cs) = Location.behind tab cs := by
  induction cs using List.reverseRecOn with
  | nil => rfl
  | append_singleton cs c ih =>
      have alike (l : Location) : l.after tab d.escape = l.after tab d'.escape := by
        rw [l.after_visible tab d.escape_visible, l.after_visible tab d'.escape_visible]
      have written : (exchange d d').spell [c] = [Equiv.swap d.escape d'.escape c] := rfl
      rw [spell_append, written, Location.behind_concat, Location.behind_concat, ih]
      exact Equiv.apply_swap_eq_self (alike _) c

variable {d d'} {text : List Char} {s t : Segment}

/-- What is written for a segment starts where the segment does. -/
theorem Writes.rewritten (tab : d'.tab = d.tab) (h : (exchange d d').Writes text s t) :
    s.Rewritten (Text.exchange d.escape d'.escape) t := by
  cases h with
  | @closed z before content _ _ =>
      rw [tab, behind_exchange, write_exchange]
      cases z with
      | static => exact .static _ _
      | slot =>
          have trimmed := (exchange d d').trim_write content
          rw [write_exchange, write_exchange] at trimmed
          simp only [Zone.segment, Segment.slot, trimmed]
          exact .slot _ _
  | unclosed _ _ =>
      rw [tab, behind_exchange, write_exchange]
      exact .unclosed _ _

/-- Nothing is written differently if the text holds neither escape character. -/
theorem Writes.eq_of_notMem (tab : d'.tab = d.tab) (without : d.escape ∉ text)
    (without' : d'.escape ∉ text) (h : (exchange d d').Writes text s t) : t = s := by
  have content_eq {content : String} (part : content.toList ⊆ text) :
      Text.exchange d.escape d'.escape content = content :=
    Text.exchange_eq_self (fun member => without (part member)) fun member =>
      without' (part member)
  cases h with
  | closed z _ part => rw [tab, behind_exchange, write_exchange, content_eq part]
  | unclosed _ part => rw [tab, behind_exchange, write_exchange, content_eq part]

end Respelling

/-- In a dialect with another escape character, a text with the two escape characters exchanged has
the same segments at the same places, with the characters exchanged in their contents. A text that
holds neither of them has the same segments in both dialects. -/
theorem Dialect.segments_exchange (d d' : Dialect) (tab : d'.tab = d.tab) (text : String) :
    List.Forall₂ (Segment.Rewritten (Text.exchange d.escape d'.escape)) (d.segments text)
      (d'.segments (Text.exchange d.escape d'.escape text)) ∧
    (d.escape ∉ text.toList → d'.escape ∉ text.toList → d'.segments text = d.segments text) := by
  rw [← Respelling.write_exchange]
  constructor
  · exact (forall₂_write (Respelling.exchange d d') text).imp fun s t writes => writes.rewritten tab
  · intro without without'
    have unchanged : d'.segments ((Respelling.exchange d d').write text) =
        (d.segments text).map id :=
      segments_write _ _ fun s t writes => writes.eq_of_notMem tab without without'
    rwa [Respelling.write_exchange, Text.exchange_eq_self without without', List.map_id]
      at unchanged

/-- A letter as the escape character, with an escaped opener, an escaped closer and an open slot.
The letter stays as it is in the words of the message. -/
theorem Dialect.segments_exchange_letter :
    let letter : Dialect := ⟨'n', 1, by decide, by decide, by decide⟩
    let text := "\\<%a<%n\\%>\\"
    let plain := "a<% b %>"
    letter.tab = standard.tab ∧
    (Text.exchange '\\' 'n' text = "n<%a<%\\n%>n" ∧
      standard.segments text =
        [.static "<%a" .origin, .unclosed "n%>\\" ⟨1, 7, 7⟩, .static "" ⟨1, 12, 12⟩] ∧
      List.Forall₂ (Segment.Rewritten (Text.exchange '\\' 'n')) (standard.segments text)
        (letter.segments (Text.exchange '\\' 'n' text))) ∧
    (standard.escape ∉ plain.toList ∧ letter.escape ∉ plain.toList ∧
      letter.segments plain = standard.segments plain) := by
  intro letter text plain
  obtain ⟨exchanged, _⟩ := segments_exchange standard letter rfl text
  obtain ⟨_, unchanged⟩ := segments_exchange standard letter rfl plain
  have without : standard.escape ∉ plain.toList := by decide
  have without' : letter.escape ∉ plain.toList := by decide
  exact ⟨rfl, ⟨by decide, by decide, exchanged⟩, without, without', unchanged without without'⟩

end Stencil
