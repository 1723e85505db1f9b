import Stencil.Proofs.Slices

/-!
# What can be written as a template

The escapes make every content writable somewhere, but not everywhere: in front of an opener, a
static content must be made of blocks, so that no lead of an opener is left over at its end.
`Writable` is the grammar of the outlines that respect this. Main statement: these are the outlines
of texts, and no others are.

## Implementation notes

A text for an outline is built piece by piece from tokens that stand for the blocks. A content that
ends in the lead of its zone cannot be closed there: at the end of the text the lead stays withheld,
and in a slot a blank keeps it away from the closer and is trimmed off.
-/

namespace Stencil

/-- The shortest stretches of a static content that an opener can follow. The lead of an opener
takes the next character along, and an escaped lead of a closer takes the lead of an opener. -/
inductive Block (e : Char) : List Char → Prop where
  | single {c : Char} : c ≠ '<' → Block e [c]
  | lead (c : Char) : Block e ['<', c]
  | escaped : Block e [e, '%', '<']

/-- A static content that an opener can follow. -/
def MadeOfBlocks (e : Char) (content : List Char) : Prop :=
  ∃ blocks : List (List Char), (∀ b ∈ blocks, Block e b) ∧ blocks.flatten = content

/-- The outlines that a text which begins in a zone can have. An opener follows blocks, a slot is
trimmed, and the last static text and the part of a slot that is never closed are free. -/
inductive Writable (e : Char) : Zone → List (Segment.Kind × String) → Prop where
  | last (s : String) : Writable e .static [(.static, s)]
  | opened {s : String} {rest : List (Segment.Kind × String)} :
      MadeOfBlocks e s.toList → Writable e .slot rest → Writable e .static ((.static, s) :: rest)
  | closed {v : String} {rest : List (Segment.Kind × String)} :
      Text.trim v = v → Writable e .static rest → Writable e .slot ((.slot, v) :: rest)
  | error (p : String) :
      Writable e .slot [(.error, Segment.unclosedMessage p), (.static, "")]

namespace MadeOfBlocks

variable {e : Char} {b cs ds : List Char}

theorem nil : MadeOfBlocks e [] := ⟨[], by simp, rfl⟩

theorem append (first : MadeOfBlocks e cs) (second : MadeOfBlocks e ds) :
    MadeOfBlocks e (cs ++ ds) := by
  obtain ⟨bs, blocks, rfl⟩ := first
  obtain ⟨bs', blocks', rfl⟩ := second
  refine ⟨bs ++ bs', ?_, List.flatten_append⟩
  intro b member
  rcases List.mem_append.mp member with member | member
  · exact blocks b member
  · exact blocks' b member

theorem cons (first : Block e b) (rest : MadeOfBlocks e cs) : MadeOfBlocks e (b ++ cs) := by
  obtain ⟨bs, blocks, rfl⟩ := rest
  exact ⟨b :: bs, List.forall_mem_cons.mpr ⟨first, blocks⟩, rfl⟩

theorem eq_nil_or_cons (h : MadeOfBlocks e cs) :
    cs = [] ∨ ∃ b ds, Block e b ∧ MadeOfBlocks e ds ∧ cs = b ++ ds := by
  obtain ⟨bs, blocks, rfl⟩ := h
  cases bs with
  | nil => exact .inl rfl
  | cons b bs =>
      obtain ⟨first, rest⟩ := List.forall_mem_cons.mp blocks
      exact .inr ⟨b, bs.flatten, first, ⟨bs, rest, rfl⟩, rfl⟩

theorem of_block (h : Block e b) : MadeOfBlocks e b := by
  simpa using cons h nil

theorem not_lead : ¬ MadeOfBlocks e ['<'] := by
  intro h
  rcases h.eq_nil_or_cons with none | ⟨b, ds, block, _, split⟩
  · exact List.cons_ne_nil _ _ none
  · cases block with
    | single lead => exact lead (List.cons.inj split).1.symm
    | lead c => simp at split
    | escaped => simp at split

/-- A lead that no other one takes along cannot be the last character. -/
theorem not_concat_lead {c : Char} (first : c ≠ '<') : ¬ MadeOfBlocks e [c, '<'] := by
  intro h
  rcases h.eq_nil_or_cons with none | ⟨b, ds, block, rest, split⟩
  · exact List.cons_ne_nil _ _ none
  · cases block with
    | single _ =>
        obtain rfl := (List.cons.inj split).2
        exact not_lead rest
    | lead _ => exact first (List.cons.inj split).1
    | escaped => simp at split

end MadeOfBlocks

/-- What a complete token adds to a static content is made of blocks. An escaped lead of a closer
may have taken an opener's lead along, which makes one block of all three. -/
theorem Token.Complete.madeOfBlocks {e : Char} {t : Token} (h : t.Complete e .static)
    (inner : t ≠ .boundary) (escape : e ≠ '<') : MadeOfBlocks e t.meaning := by
  cases h with
  | escape => exact .of_block (.single escape)
  | delimiter y =>
      cases y with
      | static => exact .of_block (.lead '%')
      | slot => exact .cons (.single (c := '%') (by decide)) (.of_block (.single (by decide)))
  | @escapedLead y c _ =>
      cases y with
      | static => exact .cons (.single escape) (.of_block (.lead c))
      | slot =>
          by_cases lead : c = '<'
          · subst lead
            exact .of_block .escaped
          · exact .cons (.single escape)
              (.cons (.single (c := '%') (by decide)) (.of_block (.single lead)))
  | escapedPlain _ lead => exact .cons (.single escape) (.of_block (.single (lead .static)))
  | boundary => exact absurd rfl inner
  | @lead c _ => exact .of_block (.lead c)
  | single _ lead => exact .of_block (.single lead)

namespace Phrase

variable {e : Char} {z : Zone} {cs m b : List Char}

theorem madeOfBlocks (h : Phrase e .static cs m) (escape : e ≠ '<') : MadeOfBlocks e m := by
  induction h with
  | nil => exact .nil
  | cons complete inner _ ih => exact (complete.madeOfBlocks inner escape).append ih

/-- A character that begins no delimiter of the zone is written as it is, and the escape twice. -/
theorem exists_single {c : Char} (lead : c ≠ z.lead) : ∃ cs, Phrase e z cs [c] := by
  by_cases escape : c = e
  · subst escape
    exact ⟨_, .single .escape nofun⟩
  · exact ⟨_, .single (.single escape lead) nofun⟩

/-- The lead of a delimiter is written with the character behind it, and a delimiter is escaped. -/
theorem exists_pair (c : Char) : ∃ cs, Phrase e z cs [z.lead, c] := by
  by_cases follow : c = z.follow
  · subst follow
    rw [← Zone.delimiter_eq]
    exact ⟨_, .single (.delimiter z) nofun⟩
  · exact ⟨_, .single (.lead follow) nofun⟩

/-- Every content can be written in a zone, up to a lead at its end. A lead swallows the next
character, so the content goes on behind both. -/
theorem exists_upTo_lead (e : Char) (z : Zone) :
    (content : List Char) →
      ∃ cs m w, Phrase e z cs m ∧ (w = [] ∨ w = [z.lead]) ∧ m ++ w = content
  | [] => ⟨[], [], [], .nil, .inl rfl, rfl⟩
  | [c] => by
      by_cases lead : c = z.lead
      · exact ⟨[], [], [c], .nil, .inr (by rw [lead]), rfl⟩
      · obtain ⟨cs, phrase⟩ := exists_single (e := e) lead
        exact ⟨cs, [c], [], phrase, .inl rfl, rfl⟩
  | c :: c' :: rest => by
      by_cases lead : c = z.lead
      · obtain ⟨cs, phrase⟩ := exists_pair (e := e) (z := z) c'
        obtain ⟨ds, m, w, later, ending, rfl⟩ := exists_upTo_lead e z rest
        subst lead
        exact ⟨_, _, w, phrase.append later, ending, by simp⟩
      · obtain ⟨cs, phrase⟩ := exists_single (e := e) lead
        obtain ⟨ds, m, w, later, ending, content⟩ := exists_upTo_lead e z (c' :: rest)
        exact ⟨_, _, w, phrase.append later, ending, by simp [content]⟩

/-- Every content can be written at the end of a text, which cuts a lead short. -/
theorem exists_withheld (e : Char) (z : Zone) (content : List Char) :
    ∃ cs m w, Phrase e z cs m ∧ Withheld e z w ∧ m ++ w = content := by
  obtain ⟨cs, m, w, phrase, rfl | rfl, split⟩ := exists_upTo_lead e z content
  · exact ⟨cs, m, [], phrase, .nothing, split⟩
  · exact ⟨cs, m, [z.lead], phrase, .lead, split⟩

/-- Every content can be written with a blank behind it. -/
theorem exists_blank (e : Char) (z : Zone) (content : List Char) :
    ∃ cs, Phrase e z cs (content ++ [' ']) := by
  obtain ⟨cs, m, w, phrase, rfl | rfl, rfl⟩ := exists_upTo_lead e z content
  · obtain ⟨ds, blank⟩ := exists_single (e := e) (z := z) (c := ' ') (by cases z <;> decide)
    exact ⟨_, by simpa using phrase.append blank⟩
  · obtain ⟨ds, blank⟩ := exists_pair (e := e) (z := z) ' '
    exact ⟨_, by simpa using phrase.append blank⟩

theorem exists_block (h : Block e b) : ∃ cs, Phrase e .static cs b := by
  cases h with
  | single lead => exact exists_single lead
  | lead c => exact exists_pair c
  | escaped => exact ⟨_, .single (.escapedLead .slot (by decide)) nofun⟩

/-- Blocks can be written in front of an opener. -/
theorem exists_of_madeOfBlocks (h : MadeOfBlocks e m) : ∃ cs, Phrase e .static cs m := by
  obtain ⟨bs, blocks, rfl⟩ := h
  induction bs with
  | nil => exact ⟨[], .nil⟩
  | cons b bs ih =>
      obtain ⟨first, rest⟩ := List.forall_mem_cons.mp blocks
      obtain ⟨cs, phrase⟩ := exists_block first
      obtain ⟨ds, later⟩ := ih rest
      exact ⟨_, phrase.append later⟩

end Phrase

namespace Pieces

variable {d : Dialect} {before cs : List Char} {z : Zone} {segments : List Segment}

/-- The outline of pieces is writable. -/
theorem writable (h : Pieces d before z cs segments) :
    Writable d.escape z (segments.map Segment.outline) := by
  induction h with
  | @closed before cs m rest z segments phrase _ ih =>
      cases z with
      | static =>
          refine .opened ?_ ih
          change MadeOfBlocks d.escape (String.ofList m).toList
          rw [String.toList_ofList]
          exact phrase.madeOfBlocks (d.escape_ne_lead .static)
      | slot => exact .closed (Text.trim_trim _) ih
  | static _ _ => exact .last _
  | slot _ _ => exact .error _

/-- A writable outline is that of some pieces, behind any text. -/
theorem exists_of_writable {outline : List (Segment.Kind × String)}
    (h : Writable d.escape z outline) (before : List Char) :
    ∃ cs segments, Pieces d before z cs segments ∧ segments.map Segment.outline = outline := by
  induction h generalizing before with
  | last s =>
      obtain ⟨cs, m, w, phrase, withheld, split⟩ := Phrase.exists_withheld d.escape .static s.toList
      refine ⟨_, _, .static phrase withheld, ?_⟩
      rw [split, String.ofList_toList]
      rfl
  | @opened s rest blocks _ ih =>
      obtain ⟨cs, phrase⟩ := Phrase.exists_of_madeOfBlocks blocks
      obtain ⟨ds, segments, pieces, later⟩ := ih (before ++ cs ++ openDelimiter)
      refine ⟨_, _, .closed phrase pieces, ?_⟩
      rw [List.map_cons, later, String.ofList_toList]
      rfl
  | @closed v rest trimmed _ ih =>
      obtain ⟨cs, phrase⟩ := Phrase.exists_blank d.escape .slot v.toList
      obtain ⟨ds, segments, pieces, later⟩ := ih (before ++ cs ++ closeDelimiter)
      refine ⟨_, _, .closed phrase pieces, ?_⟩
      have content : Text.trim (.ofList (v.toList ++ [' '])) = v := by
        rw [Text.trim, String.toList_ofList, Text.trimBoth_concat (by decide)]
        exact trimmed
      rw [List.map_cons, later]
      exact congrArg (fun v => (Segment.Kind.slot, v) :: rest) content
  | error p =>
      obtain ⟨cs, m, w, phrase, withheld, split⟩ := Phrase.exists_withheld d.escape .slot p.toList
      refine ⟨_, _, .slot phrase withheld, ?_⟩
      rw [split, String.ofList_toList]
      rfl

end Pieces

/-- The content of a static text is made of blocks if a slot follows. -/
theorem Writable.madeOfBlocks {e : Char} {z : Zone} {outline : List (Segment.Kind × String)}
    (h : Writable e z outline) {s v : String}
    (neighbours : [(.static, s), (.slot, v)] <:+: outline) : MadeOfBlocks e s.toList := by
  induction h with
  | last t => simp [List.infix_cons_iff] at neighbours
  | @opened t rest blocks _ ih =>
      rcases List.infix_cons_iff.mp neighbours with first | later
      · obtain rfl : s = t := congrArg Prod.snd (List.cons_prefix_cons.mp first).1
        exact blocks
      · exact ih later
  | @closed u rest _ _ ih =>
      rcases List.infix_cons_iff.mp neighbours with first | later
      · simp at first
      · exact ih later
  | error p => simp [List.infix_cons_iff] at neighbours

theorem Dialect.writable_outline (d : Dialect) (text : String) :
    Writable d.escape .static ((d.segments text).map Segment.outline) :=
  (Pieces.of_segments d text).writable

/-- There is a text for every writable outline. -/
theorem Writable.exists_text {d : Dialect} {outline : List (Segment.Kind × String)}
    (h : Writable d.escape .static outline) :
    ∃ text, (d.segments text).map Segment.outline = outline := by
  obtain ⟨cs, segments, pieces, rfl⟩ := Pieces.exists_of_writable h []
  exact ⟨.ofList cs, congrArg (List.map Segment.outline) pieces.segments_ofList⟩

/-- The outlines of texts are the writable ones. So every text is some template's only static text,
and every trimmed text is the content of a slot, but there is no slot right behind the text `a<`. -/
theorem Dialect.outline_segments_iff (d : Dialect) :
    (∀ outline, (∃ text, (d.segments text).map Segment.outline = outline) ↔
      Writable d.escape .static outline) ∧
    (∀ s, ∃ text, (d.segments text).map Segment.outline = [(.static, s)]) ∧
    (∀ v, ∃ text, (d.segments text).map Segment.outline =
      [(.static, ""), (.slot, Text.trim v), (.static, "")]) ∧
    (∀ text v, ¬ [(.static, "a<"), (.slot, v)] <:+: (d.segments text).map Segment.outline) := by
  refine ⟨?_, ?_, ?_, ?_⟩
  · intro outline
    constructor
    · rintro ⟨text, rfl⟩
      exact d.writable_outline text
    · exact Writable.exists_text
  · intro s
    exact Writable.exists_text (.last s)
  · intro v
    exact Writable.exists_text (.opened .nil (.closed (Text.trim_trim v) (.last "")))
  · intro text v neighbours
    have blocks := (d.writable_outline text).madeOfBlocks neighbours
    exact MadeOfBlocks.not_concat_lead (c := 'a') (by decide) blocks

end Stencil
