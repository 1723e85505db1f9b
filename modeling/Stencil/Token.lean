import Stencil.Segmentation

/-!
# Tokens

A template can be read token by token, with the longest token at each place: an escape sequence,
the delimiter of the zone, a character that might have begun one of them together with what it met
instead, or a plain character. Tokens join to the text again, and what they stand for joins to the
contents of the segments.

## Implementation notes

A character that might begin a delimiter takes the next one with it even if that one might begin a
delimiter or an escape of its own. So `<<%` is one token of two characters and a plain `%`.
-/

namespace Stencil

/-- What a token means. -/
inductive Token where
  /-- The escape character and what it stands in front of, which loses its meaning. -/
  | escaped (cs : List Char)
  /-- Characters that stand for themselves. -/
  | plain (cs : List Char)
  /-- The delimiter of the zone. -/
  | boundary
deriving DecidableEq, Repr

namespace Token

/-- The characters of a token in a zone. -/
def spelling (e : Char) (z : Zone) : Token → List Char
  | escaped cs => e :: cs
  | plain cs => cs
  | boundary => z.delimiter

/-- The characters that a token adds to the content. -/
def meaning : Token → List Char
  | escaped cs => cs
  | plain cs => cs
  | boundary => []

/-- The zone behind a token. -/
def zoneAfter (z : Zone) : Token → Zone
  | boundary => z.other
  | _ => z

/-- The token of an escape character and the lead of the delimiter of `z`, and what is left. -/
def afterEscapedLead (e : Char) (z : Zone) : List Char → Token × List Char
  | [] => (plain [e, z.lead], [])
  | c :: cs =>
    if c = z.follow then (escaped z.delimiter, cs) else (plain [e, z.lead, c], cs)

/-- The token that an escape character begins, and what is left. -/
def afterEscape (e : Char) : List Char → Token × List Char
  | [] => (plain [e], [])
  | c :: cs =>
    if c = e then (escaped [e], cs)
    else if c = Zone.static.lead then afterEscapedLead e .static cs
    else if c = Zone.slot.lead then afterEscapedLead e .slot cs
    else (plain [e, c], cs)

/-- The token that the lead of a delimiter begins, and what is left. -/
def afterLead (z : Zone) : List Char → Token × List Char
  | [] => (plain [z.lead], [])
  | c :: cs => if c = z.follow then (boundary, cs) else (plain [z.lead, c], cs)

/-- The longest token at the front of a text, and what is left. -/
def first (e : Char) (z : Zone) (c : Char) (cs : List Char) : Token × List Char :=
  if c = e then afterEscape e cs
  else if c = z.lead then afterLead z cs
  else (plain [c], cs)

theorem afterEscapedLead_spelling (e : Char) (z y : Zone) (cs : List Char) :
    (afterEscapedLead e z cs).1.spelling e y ++ (afterEscapedLead e z cs).2 =
      e :: z.lead :: cs := by
  unfold afterEscapedLead
  split
  · rfl
  · split
    · rename_i h
      simp [spelling, Zone.delimiter_eq, h]
    · rfl

theorem afterEscape_spelling (e : Char) (z : Zone) (cs : List Char) :
    (afterEscape e cs).1.spelling e z ++ (afterEscape e cs).2 = e :: cs := by
  unfold afterEscape
  split
  · rfl
  · rename_i c cs
    split
    · rename_i h
      simp [spelling, h]
    · split
      · rename_i h
        rw [afterEscapedLead_spelling, h]
      · split
        · rename_i h
          rw [afterEscapedLead_spelling, h]
        · rfl

theorem afterLead_spelling (e : Char) (z : Zone) (cs : List Char) :
    (afterLead z cs).1.spelling e z ++ (afterLead z cs).2 = z.lead :: cs := by
  unfold afterLead
  split
  · rfl
  · split
    · rename_i h
      simp [spelling, Zone.delimiter_eq, h]
    · rfl

/-- The first token and the rest are the whole text. -/
theorem first_spelling (e : Char) (z : Zone) (c : Char) (cs : List Char) :
    (first e z c cs).1.spelling e z ++ (first e z c cs).2 = c :: cs := by
  unfold first
  split
  · rename_i h
    rw [afterEscape_spelling, h]
  · split
    · rename_i h
      rw [afterLead_spelling, h]
    · rfl

theorem afterEscapedLead_length_le (e : Char) (z : Zone) (cs : List Char) :
    (afterEscapedLead e z cs).2.length ≤ cs.length := by
  cases cs <;> grind [afterEscapedLead]

theorem afterEscape_length_le (e : Char) (cs : List Char) :
    (afterEscape e cs).2.length ≤ cs.length := by
  cases cs <;> grind [afterEscape, afterEscapedLead_length_le]

theorem afterLead_length_le (z : Zone) (cs : List Char) :
    (afterLead z cs).2.length ≤ cs.length := by
  cases cs <;> grind [afterLead]

/-- Every token takes at least one character. -/
theorem first_length_le (e : Char) (z : Zone) (c : Char) (cs : List Char) :
    (first e z c cs).2.length ≤ cs.length := by
  grind [first, afterEscape_length_le, afterLead_length_le]

/-- The tokens of a text that begins in a zone. -/
def tokens (e : Char) (z : Zone) : List Char → List Token
  | [] => []
  | c :: cs =>
    (first e z c cs).1 :: tokens e (zoneAfter z (first e z c cs).1) (first e z c cs).2
termination_by cs => cs.length
decreasing_by
  have := first_length_le e z c cs
  simp only [List.length_cons]
  omega

@[simp] theorem tokens_nil (e : Char) (z : Zone) : tokens e z [] = [] := by
  rw [tokens]

/-- The segments of tokens, read on from a state without withheld characters. -/
def segments (d : Dialect) (s : Segmentation.State) : List Token → List Segment
  | [] =>
    match s.zone with
    | .static => [Segment.static s.content s.start]
    | .slot => [Segment.unclosed s.content s.start, Segment.static "" s.here]
  | t :: ts =>
    let here := s.here.afterAll d.tab (t.spelling d.escape s.zone)
    match t with
    | boundary =>
      s.zone.segment s.content s.start :: segments d ⟨s.zone.other, [], "", here, here⟩ ts
    | t => segments d ⟨s.zone, [], s.content ++ .ofList t.meaning, s.start, here⟩ ts

end Token

/-- The segments of a text, read token by token. -/
def Dialect.segmentsByToken (d : Dialect) (text : String) : List Segment :=
  Token.segments d .initial (Token.tokens d.escape .static text.toList)

end Stencil
