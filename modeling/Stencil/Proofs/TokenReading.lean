import Stencil.Proofs.FeedTable
import Stencil.Token

/-!
# Reading by characters and reading by tokens

`Token.Reads` splits a text into the tokens of the zones that it goes through, without running
anything: each piece of the text is a complete token, up to one that the end of the text cuts
short. Reading the characters of a complete token from a state that withholds nothing leads to
such a state again. Main statement: the segments of a text are those of its tokens.

## Implementation notes

Nothing needs to be said about states in the middle of a token, since each complete token is read
as a whole. A token that is cut short stays withheld.
-/

namespace Stencil

open Segmentation

namespace Token

/-- The complete tokens of a zone. An escape character protects itself or a delimiter. Behind it or
behind the lead of a delimiter, any other character is taken along as it is. -/
inductive Complete (e : Char) (z : Zone) : Token → Prop where
  | escape : Complete e z (escaped [e])
  | delimiter (y : Zone) : Complete e z (escaped y.delimiter)
  | escapedLead (y : Zone) {c : Char} : c ≠ y.follow → Complete e z (plain [e, y.lead, c])
  | escapedPlain {c : Char} : c ≠ e → (∀ y : Zone, c ≠ y.lead) → Complete e z (plain [e, c])
  | boundary : Complete e z boundary
  | lead {c : Char} : c ≠ z.follow → Complete e z (plain [z.lead, c])
  | single {c : Char} : c ≠ e → c ≠ z.lead → Complete e z (plain [c])

/-- How a text that begins in a zone splits into tokens. Only the last one may be incomplete, and
it stands for its own characters. -/
inductive Reads (e : Char) : Zone → List Char → List Token → Prop where
  | nothing (z : Zone) : Reads e z [] []
  | unfinished {z : Zone} {w : List Char} : Withheld e z w → w ≠ [] → Reads e z w [plain w]
  | token {z : Zone} {t : Token} {cs : List Char} {ts : List Token} :
      Complete e z t → Reads e (zoneAfter z t) cs ts → Reads e z (t.spelling e z ++ cs) (t :: ts)

/-- What is found at the front of a text: a complete token, or all of the text as an incomplete
one. -/
def Begins (e : Char) (z : Zone) (cs : List Char) (found : Token × List Char) : Prop :=
  Complete e z found.1 ∨ Withheld e z cs ∧ found = (plain cs, [])

theorem afterEscapedLead_begins (e : Char) (z y : Zone) (cs : List Char) :
    Begins e z (e :: y.lead :: cs) (afterEscapedLead e y cs) := by
  cases cs with
  | nil => exact .inr ⟨.escapedLead y, rfl⟩
  | cons c cs =>
      simp only [afterEscapedLead]
      split
      · exact .inl (.delimiter y)
      · rename_i follow
        exact .inl (.escapedLead y follow)

theorem afterEscape_begins (e : Char) (z : Zone) (cs : List Char) :
    Begins e z (e :: cs) (afterEscape e cs) := by
  cases cs with
  | nil => exact .inr ⟨.escape, rfl⟩
  | cons c cs =>
      simp only [afterEscape]
      split
      · exact .inl .escape
      · rename_i escape
        split
        · rename_i lead
          rw [lead]
          exact afterEscapedLead_begins e z .static cs
        · rename_i opener
          split
          · rename_i lead
            rw [lead]
            exact afterEscapedLead_begins e z .slot cs
          · rename_i closer
            refine .inl (.escapedPlain escape ?_)
            intro y
            cases y with
            | static => exact opener
            | slot => exact closer

theorem afterLead_begins (e : Char) (z : Zone) (cs : List Char) :
    Begins e z (z.lead :: cs) (afterLead z cs) := by
  cases cs with
  | nil => exact .inr ⟨.lead, rfl⟩
  | cons c cs =>
      simp only [afterLead]
      split
      · exact .inl .boundary
      · rename_i follow
        exact .inl (.lead follow)

/-- The longest token at the front of a text is a complete one, or the text ends within it. -/
theorem first_begins (e : Char) (z : Zone) (c : Char) (cs : List Char) :
    Begins e z (c :: cs) (first e z c cs) := by
  unfold first
  split
  · rename_i escape
    rw [escape]
    exact afterEscape_begins e z cs
  · rename_i escape
    split
    · rename_i lead
      rw [lead]
      exact afterLead_begins e z cs
    · rename_i lead
      exact .inl (.single escape lead)

/-- Every text splits into its tokens. -/
theorem reads_tokens (e : Char) (z : Zone) (cs : List Char) : Reads e z cs (tokens e z cs) := by
  fun_induction tokens e z cs with
  | case1 z => exact .nothing z
  | case2 z c cs ih =>
      rcases first_begins e z c cs with complete | ⟨withheld, cut⟩
      · have split := Reads.token complete ih
        rwa [first_spelling] at split
      · rw [cut, tokens_nil]
        exact .unfinished withheld (List.cons_ne_nil c cs)

end Token

namespace Segmentation.State

/-- The state behind a complete token and the segment that comes out if it is a delimiter. -/
def pass (d : Dialect) (s : State) (t : Token) : State × List Segment :=
  let here := s.here.afterAll d.tab (t.spelling d.escape s.zone)
  match t with
  | .boundary => (⟨s.zone.other, [], "", here, here⟩, [s.zone.segment s.content s.start])
  | t => (⟨s.zone, [], s.content ++ .ofList t.meaning, s.start, here⟩, [])

theorem pass_zone (d : Dialect) (s : State) (t : Token) :
    (s.pass d t).1.zone = t.zoneAfter s.zone := by
  cases t <;> rfl

theorem pass_held (d : Dialect) (s : State) (t : Token) : (s.pass d t).1.held = [] := by
  cases t <;> rfl

/-- The characters of a complete token, read from a state that withholds nothing. -/
theorem readAll_complete (d : Dialect) {s : State} {t : Token} (held : s.held = [])
    (h : t.Complete d.escape s.zone) : s.readAll d (t.spelling d.escape s.zone) = s.pass d t := by
  obtain ⟨z, w, content, start, here⟩ := s
  obtain rfl : w = [] := held
  simp only [pass, Token.spelling]
  cases h with
  | escape => simp [readAll_cons, read, Token.meaning]
  | delimiter y => simp [readAll_cons, read, Token.meaning, Zone.delimiter_eq y]
  | escapedLead y follow => simp [readAll_cons, read, Token.meaning, follow]
  | escapedPlain escape lead => simp [readAll_cons, read, Token.meaning, escape, lead]
  | boundary => simp [readAll_cons, read, Zone.delimiter_eq]
  | lead follow => simp [readAll_cons, read, Token.meaning, follow]
  | single escape lead => simp [readAll_cons, read, Token.meaning, escape, lead]

/-- The characters of an incomplete token stay withheld. -/
theorem readAll_withheld (d : Dialect) {s : State} {w : List Char} (held : s.held = [])
    (h : Withheld d.escape s.zone w) :
    s.readAll d w = ({ s with held := w, here := s.here.afterAll d.tab w }, []) := by
  obtain ⟨z, v, content, start, here⟩ := s
  obtain rfl : v = [] := held
  cases h with
  | nothing => rfl
  | escape => simp [readAll_cons, read]
  | escapedLead y => simp [readAll_cons, read]
  | lead => simp [readAll_cons, read]

/-- The segments that a state and the rest of the text yield. -/
def yield (d : Dialect) (s : State) (cs : List Char) : List Segment :=
  (s.readAll d cs).2 ++ (s.readAll d cs).1.finish

theorem yield_cons (d : Dialect) (s : State) (c : Char) (cs : List Char) :
    s.yield d (c :: cs) = (s.read d c).2.toList ++ (s.read d c).1.yield d cs := by
  simp only [yield, readAll_cons, List.append_assoc]

theorem yield_append (d : Dialect) (s : State) (cs ds : List Char) :
    s.yield d (cs ++ ds) = (s.readAll d cs).2 ++ (s.readAll d cs).1.yield d ds := by
  simp only [yield, readAll_append, List.append_assoc]

end Segmentation.State

namespace Token

theorem segments_cons (d : Dialect) (s : State) (t : Token) (ts : List Token) :
    segments d s (t :: ts) = (s.pass d t).2 ++ segments d (s.pass d t).1 ts := by
  cases t <;> rfl

/-- At the end of a text, withheld characters count like a token that stands for them. -/
theorem finish_eq_segments (d : Dialect) (s : State) :
    s.finish = segments d ⟨s.zone, [], s.partialContent, s.start, s.here⟩ [] := by
  cases h : s.zone <;> simp [State.finish, segments, h]

/-- Reading the characters of a text yields the segments of its tokens. -/
theorem Reads.yield_eq (d : Dialect) {s : State} {cs : List Char} {ts : List Token}
    (held : s.held = []) (h : Reads d.escape s.zone cs ts) : s.yield d cs = segments d s ts := by
  generalize zone : s.zone = z at h
  induction h generalizing s with
  | nothing z =>
      have content : s.partialContent = s.content := by simp [State.partialContent, held]
      rw [State.yield, State.readAll_nil, List.nil_append, finish_eq_segments d, content, ← held]
  | @unfinished z w withheld _ =>
      subst zone
      rw [State.yield, State.readAll_withheld d held withheld, List.nil_append,
        finish_eq_segments d]
      rfl
  | @token z t cs ts complete _ ih =>
      subst zone
      have later := ih (State.pass_held d s t) (State.pass_zone d s t)
      calc
        s.yield d (t.spelling d.escape s.zone ++ cs) =
            (s.pass d t).2 ++ (s.pass d t).1.yield d cs := by
          rw [State.yield_append, State.readAll_complete d held complete]
        _ = (s.pass d t).2 ++ segments d (s.pass d t).1 ts := by rw [later]
        _ = segments d s (t :: ts) := (segments_cons d s t ts).symm

end Token

/-- Both ways to read a text come to the same segments. -/
theorem Dialect.segments_eq_segmentsByToken (d : Dialect) (text : String) :
    d.segments text = d.segmentsByToken text :=
  (Token.reads_tokens d.escape .static text.toList).yield_eq d rfl

/-- The segments of a text are those of its tokens, of which the longest is taken at each place:
reading character by character and reading token by token come to the same. -/
theorem Dialect.segments_eq_iff_reads (d : Dialect) (text : String) (segments : List Segment) :
    d.segments text = segments ↔
      ∃ ts, Token.Reads d.escape .static text.toList ts ∧
        Token.segments d .initial ts = segments := by
  constructor
  · intro h
    have byToken := d.segments_eq_segmentsByToken text
    exact ⟨_, Token.reads_tokens d.escape .static text.toList, byToken.symm.trans h⟩
  · rintro ⟨ts, reads, h⟩
    exact (reads.yield_eq d rfl).trans h

end Stencil
