import Stencil.Proofs.Slices

/-!
# The language of escapes

Static texts and slots end with delimiters of their own, but what an escape character stands in
front of is read alike in both. A text is escaped if it is made of words that begin no delimiter of
either zone: characters that mean nothing, and escape characters with what they take along. Main
statement: an escaped text stands for the same content on its own and in a slot.

## Implementation notes

A word is a complete token of both zones, with the same spelling and the same meaning. So a row of
words is a phrase of both zones, and no delimiter of either is ever met.
-/

namespace Stencil

/-- The words of the escape language. A lead of a delimiter behind an escape character takes one
more character along, whatever it is. -/
inductive EscapeWord (e : Char) : List Char → Prop where
  | ordinary {c : Char} : c ≠ e → (∀ z : Zone, c ≠ z.lead) → EscapeWord e [c]
  | escape : EscapeWord e [e, e]
  | lead (z : Zone) (c : Char) : EscapeWord e [e, z.lead, c]
  | other {c : Char} : c ≠ e → (∀ z : Zone, c ≠ z.lead) → EscapeWord e [e, c]

/-- What a word stands for. An escape character goes away in front of another one and in front of a
delimiter, and stays in front of everything else. -/
def unescaped (e : Char) (word : List Char) : List Char :=
  if word = [e, e] ∨ word = e :: openDelimiter ∨ word = e :: closeDelimiter then word.tail
  else word

theorem unescaped_delimiter (e : Char) (z : Zone) :
    unescaped e (e :: z.delimiter) = z.delimiter := by
  cases z <;> simp [unescaped, Zone.delimiter]

theorem unescaped_escapedLead {e c : Char} {z : Zone} (follow : c ≠ z.follow) :
    unescaped e [e, z.lead, c] = [e, z.lead, c] := by
  cases z <;> simp_all [unescaped, openDelimiter, closeDelimiter, Zone.lead, Zone.follow]

theorem unescaped_escaped {e c : Char} (escape : c ≠ e) : unescaped e [e, c] = [e, c] := by
  simp [unescaped, openDelimiter, closeDelimiter, escape]

theorem unescaped_singleton (e c : Char) : unescaped e [c] = [c] := by
  simp [unescaped, openDelimiter, closeDelimiter]

theorem unescaped_cons_of_ne {e c : Char} (other : c ≠ e) (cs : List Char) :
    unescaped e (c :: cs) = c :: cs := by
  simp [unescaped, other]

namespace EscapeWord

variable {e : Char} {w : List Char} {words : List (List Char)}

/-- A word is a complete token in whatever zone it stands, and never a delimiter. Behind an escaped
lead, only its follower completes a delimiter and makes the escape character go. -/
theorem exists_token (h : EscapeWord e w) :
    ∃ t : Token, t ≠ .boundary ∧ t.meaning = unescaped e w ∧
      ∀ z : Zone, t.Complete e z ∧ t.spelling e z = w := by
  cases h with
  | @ordinary c escape lead =>
      refine ⟨.plain [c], nofun, (unescaped_singleton e c).symm, ?_⟩
      intro z
      exact ⟨.single escape (lead z), rfl⟩
  | escape =>
      have meaning : unescaped e [e, e] = [e] := by simp [unescaped]
      refine ⟨.escaped [e], nofun, meaning.symm, ?_⟩
      intro z
      exact ⟨.escape, rfl⟩
  | lead y c =>
      by_cases follow : c = y.follow
      · subst follow
        rw [← Zone.delimiter_eq, unescaped_delimiter]
        refine ⟨.escaped y.delimiter, nofun, rfl, ?_⟩
        intro z
        exact ⟨.delimiter y, rfl⟩
      · refine ⟨.plain [e, y.lead, c], nofun, (unescaped_escapedLead follow).symm, ?_⟩
        intro z
        exact ⟨.escapedLead y follow, rfl⟩
  | @other c escape lead =>
      refine ⟨.plain [e, c], nofun, (unescaped_escaped escape).symm, ?_⟩
      intro z
      exact ⟨.escapedPlain escape lead, rfl⟩

/-- Words in a row are a phrase of either zone and stand for the same in both. -/
theorem phrase_flatten (h : ∀ w ∈ words, EscapeWord e w) (z : Zone) :
    Phrase e z words.flatten (words.flatMap (unescaped e)) := by
  induction words with
  | nil => exact .nil
  | cons w words ih =>
      obtain ⟨first, others⟩ := List.forall_mem_cons.mp h
      obtain ⟨t, inner, meaning, anywhere⟩ := first.exists_token
      obtain ⟨complete, spelling⟩ := anywhere z
      rw [List.flatten_cons, List.flatMap_cons, ← meaning, ← spelling]
      exact .cons complete inner (ih others)

end EscapeWord

/-- A text made of words stands for the same content inside a slot as outside: on its own it is one
static text with what its words stand for, and between the delimiters of a slot it is the slot with
this content, with nothing around it. -/
theorem Dialect.segments_of_words (d : Dialect) (words : List (List Char))
    (escaped : ∀ w ∈ words, EscapeWord d.escape w) :
    let text := String.ofList words.flatten
    let content := String.ofList (words.flatMap (unescaped d.escape))
    d.segments text = [.static content .origin] ∧
    (d.segments ("<%" ++ text ++ "%>")).map Segment.outline =
      [(.static, ""), (.slot, Text.trim content), (.static, "")] := by
  intro text content
  have outside := (EscapeWord.phrase_flatten escaped .static).segments_static .nothing
  have inside := Pieces.readsAlone_closed (EscapeWord.phrase_flatten escaped .slot) .origin
  have spelled : "<%" ++ text ++ "%>" =
      .ofList (openDelimiter ++ words.flatten ++ closeDelimiter) := by
    rw [String.ofList_append, String.ofList_append]
    rfl
  constructor
  · rw [List.append_nil, List.append_nil] at outside
    exact outside
  · rw [spelled]
    exact inside

/-- Words of every form, among them an escaped opener, a lead that takes an escape character along
and a line feed at the end, which is trimmed off in the slot. -/
theorem Dialect.segments_of_words_every_form :
    let words := [[' '], ['\\', '\\'], ['\\', '<', '%'], ['\\', '<', '\\'], ['\\', '%', '<'],
      ['\\', '>'], ['\n']]
    let content := " \\<%\\<\\\\%<\\>\n"
    (∀ w ∈ words, EscapeWord standard.escape w) ∧
    standard.segments " \\\\\\<%\\<\\\\%<\\>\n" = [.static content .origin] ∧
    (standard.segments "<% \\\\\\<%\\<\\\\%<\\>\n%>").map Segment.outline =
      [(.static, ""), (.slot, Text.trim content), (.static, "")] := by
  intro words content
  have escaped : ∀ w ∈ words, EscapeWord standard.escape w := by
    simp only [words, List.forall_mem_cons]
    refine ⟨.ordinary (by decide) ?_, .escape, .lead .static '%', .lead .static '\\',
      .lead .slot '<', .other (by decide) ?_, .ordinary (by decide) ?_, by simp⟩
    all_goals
      intro z
      cases z <;> decide
  have unescape : words.flatMap (unescaped standard.escape) = content.toList := by decide
  obtain ⟨outside, inside⟩ := segments_of_words standard words escaped
  rw [unescape, String.ofList_toList] at outside inside
  exact ⟨escaped, outside, inside⟩

end Stencil
