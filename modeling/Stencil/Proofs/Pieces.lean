import Stencil.Proofs.TokenReading

/-!
# The pieces of a text

`Pieces` says what the segments of a text are without running anything: the text is cut at the
delimiters of the zones that it goes through, each piece between two delimiters is decoded on its
own, and each segment starts behind all of the text before its piece. Main statement: the segments
of a text are the pieces of it, and no other row of segments is.

## Implementation notes

The relation keeps the text before a piece beside the rest of the text, so a location can be given
by the text that it lies behind. Facts about segments are proved by induction on the pieces.
-/

namespace Stencil

open Segmentation

/-- A text without a delimiter of its zone, made of complete tokens, and what it stands for. -/
inductive Phrase (e : Char) (z : Zone) : List Char → List Char → Prop where
  | nil : Phrase e z [] []
  | cons {t : Token} {cs m : List Char} :
      t.Complete e z → t ≠ .boundary → Phrase e z cs m →
        Phrase e z (t.spelling e z ++ cs) (t.meaning ++ m)

namespace Phrase

variable {e : Char} {z : Zone} {cs m ds n : List Char}

theorem append (first : Phrase e z cs m) (second : Phrase e z ds n) :
    Phrase e z (cs ++ ds) (m ++ n) := by
  induction first with
  | nil => exact second
  | cons complete inner _ ih =>
      rw [List.append_assoc, List.append_assoc]
      exact .cons complete inner ih

theorem single {t : Token} (complete : t.Complete e z) (inner : t ≠ .boundary) :
    Phrase e z (t.spelling e z) t.meaning := by
  simpa using Phrase.cons complete inner .nil

theorem concat {t : Token} (first : Phrase e z cs m) (complete : t.Complete e z)
    (inner : t ≠ .boundary) : Phrase e z (cs ++ t.spelling e z) (m ++ t.meaning) :=
  first.append (single complete inner)

/-- Characters that begin neither an escape nor a delimiter stand for themselves. -/
theorem of_plain (plain : ∀ c ∈ cs, c ≠ e ∧ c ≠ z.lead) : Phrase e z cs cs := by
  induction cs with
  | nil => exact .nil
  | cons c cs ih =>
      obtain ⟨⟨escape, lead⟩, others⟩ := List.forall_mem_cons.mp plain
      exact .cons (t := .plain [c]) (.single escape lead) nofun (ih others)

/-- What a phrase stands for is made of its own characters. -/
theorem subset (h : Phrase e z cs m) : m ⊆ cs := by
  induction h with
  | nil => exact List.Subset.refl []
  | @cons t cs m _ _ _ ih =>
      have here : t.meaning ⊆ t.spelling e z := by
        cases t with
        | escaped cs => exact List.subset_cons_self e cs
        | plain cs => exact List.Subset.refl cs
        | boundary => exact List.nil_subset _
      apply List.append_subset.mpr
      exact ⟨List.Subset.trans here (List.subset_append_left _ _),
        List.Subset.trans ih (List.subset_append_right _ _)⟩

end Phrase

/-- The segments of a text that begins in a zone behind the text `before`. A piece ends with the
delimiter of its zone or with the text, which may cut a token short. -/
inductive Pieces (d : Dialect) : List Char → Zone → List Char → List Segment → Prop where
  | closed {before cs m rest : List Char} {z : Zone} {segments : List Segment} :
      Phrase d.escape z cs m →
      Pieces d (before ++ cs ++ z.delimiter) z.other rest segments →
      Pieces d before z (cs ++ z.delimiter ++ rest)
        (z.segment (.ofList m) (.behind d.tab before) :: segments)
  | static {before cs m w : List Char} :
      Phrase d.escape .static cs m → Withheld d.escape .static w →
      Pieces d before .static (cs ++ w) [.static (.ofList (m ++ w)) (.behind d.tab before)]
  | slot {before cs m w : List Char} :
      Phrase d.escape .slot cs m → Withheld d.escape .slot w →
      Pieces d before .slot (cs ++ w)
        [.unclosed (.ofList (m ++ w)) (.behind d.tab before),
          .static "" (.behind d.tab (before ++ cs ++ w))]

namespace Location

theorem behind_afterAll (tab : Int) (before cs : List Char) :
    (behind tab before).afterAll tab cs = behind tab (before ++ cs) := by
  rw [← afterAll_origin, ← afterAll_origin, afterAll_append]

end Location

namespace Segmentation.State

/-- The state in which a zone begins behind a text. -/
def opening (d : Dialect) (z : Zone) (before : List Char) : State :=
  ⟨z, [], "", .behind d.tab before, .behind d.tab before⟩

theorem pass_inner (d : Dialect) (s : State) {t : Token} (inner : t ≠ .boundary) :
    s.pass d t =
      (⟨s.zone, [], s.content ++ .ofList t.meaning, s.start,
        s.here.afterAll d.tab (t.spelling d.escape s.zone)⟩, []) := by
  cases t with
  | boundary => exact absurd rfl inner
  | escaped cs => rfl
  | plain cs => rfl

/-- A phrase adds what it stands for to the content. -/
theorem readAll_phrase (d : Dialect) {z : Zone} {cs m : List Char} (h : Phrase d.escape z cs m)
    (content : String) (start here : Location) :
    readAll d ⟨z, [], content, start, here⟩ cs =
      (⟨z, [], content ++ .ofList m, start, here.afterAll d.tab cs⟩, []) := by
  induction h generalizing content here with
  | nil => simp
  | @cons t cs m complete inner _ ih =>
      have token := readAll_complete d (s := ⟨z, [], content, start, here⟩) rfl complete
      rw [pass_inner d _ inner] at token
      rw [readAll_append, token, ih]
      simp [String.ofList_append, String.append_assoc, Location.afterAll_append]

/-- A phrase and the delimiter behind it, from a state that has collected some content. -/
theorem yield_closed (d : Dialect) {z : Zone} {cs m : List Char} (h : Phrase d.escape z cs m)
    (content : String) (start : Location) (before rest : List Char) :
    yield d ⟨z, [], content, start, .behind d.tab before⟩ (cs ++ z.delimiter ++ rest) =
      z.segment (content ++ .ofList m) start ::
        (opening d z.other (before ++ cs ++ z.delimiter)).yield d rest := by
  have delimiter := readAll_complete (t := .boundary) d
    (s := ⟨z, [], content ++ .ofList m, start, .behind d.tab (before ++ cs)⟩) rfl .boundary
  simp only [pass, Location.behind_afterAll, Token.spelling] at delimiter
  calc
    yield d ⟨z, [], content, start, .behind d.tab before⟩ (cs ++ z.delimiter ++ rest) =
        yield d ⟨z, [], content ++ .ofList m, start, .behind d.tab (before ++ cs)⟩
          (z.delimiter ++ rest) := by
      rw [List.append_assoc, yield_append, readAll_phrase d h, Location.behind_afterAll]
      rfl
    _ = z.segment (content ++ .ofList m) start ::
          (opening d z.other (before ++ cs ++ z.delimiter)).yield d rest := by
      rw [yield_append, delimiter]
      rfl

/-- A phrase and the beginning of a token at the end of a text, from such a state. -/
theorem yield_cut (d : Dialect) {z : Zone} {cs m w : List Char} (h : Phrase d.escape z cs m)
    (withheld : Withheld d.escape z w) (content : String) (start : Location)
    (before : List Char) :
    yield d ⟨z, [], content, start, .behind d.tab before⟩ (cs ++ w) =
      finish ⟨z, w, content ++ .ofList m, start, .behind d.tab (before ++ cs ++ w)⟩ := by
  rw [yield_append, readAll_phrase d h, yield, readAll_withheld d rfl withheld]
  simp only [Location.behind_afterAll, List.nil_append]

end Segmentation.State

namespace Pieces

variable {d : Dialect} {before cs : List Char} {z : Zone} {segments : List Segment}

/-- A text without an opener is one piece. -/
theorem of_phrase {m : List Char} (h : Phrase d.escape .static cs m) (before : List Char) :
    Pieces d before .static cs [.static (.ofList m) (.behind d.tab before)] := by
  have piece : Pieces d before .static (cs ++ [])
      [.static (.ofList (m ++ [])) (.behind d.tab before)] := .static h .nothing
  rwa [List.append_nil, List.append_nil] at piece

/-- Reading yields the pieces. -/
theorem yield_eq (h : Pieces d before z cs segments) :
    (State.opening d z before).yield d cs = segments := by
  induction h with
  | @closed before cs m rest z segments phrase _ ih =>
      rw [State.opening, State.yield_closed d phrase, ih, String.empty_append]
  | @static before cs m w phrase withheld =>
      rw [State.opening, State.yield_cut d phrase withheld]
      simp [State.finish, State.partialContent, String.ofList_append]
  | @slot before cs m w phrase withheld =>
      rw [State.opening, State.yield_cut d phrase withheld]
      simp [State.finish, State.partialContent, String.ofList_append]

/-- A phrase and the tokens behind it can be cut into pieces. -/
theorem exists_of_reads {rest : List Char} {ts : List Token}
    (h : Token.Reads d.escape z rest ts) (before : List Char) {cs m : List Char}
    (phrase : Phrase d.escape z cs m) : ∃ segments, Pieces d before z (cs ++ rest) segments := by
  induction h generalizing before cs m with
  | nothing z =>
      cases z with
      | static => exact ⟨_, .static phrase .nothing⟩
      | slot => exact ⟨_, .slot phrase .nothing⟩
  | @unfinished z w withheld _ =>
      cases z with
      | static => exact ⟨_, .static phrase withheld⟩
      | slot => exact ⟨_, .slot phrase withheld⟩
  | @token z t rest ts complete _ ih =>
      by_cases inner : t = .boundary
      · subst inner
        obtain ⟨segments, pieces⟩ := ih (before ++ cs ++ z.delimiter) .nil
        rw [← List.append_assoc]
        exact ⟨_, .closed phrase pieces⟩
      · have zone : t.zoneAfter z = z := by
          cases t with
          | boundary => exact absurd rfl inner
          | escaped cs => rfl
          | plain cs => rfl
        rw [zone] at ih
        rw [← List.append_assoc]
        exact ih before (phrase.concat complete inner)

/-- The segments of a text are its pieces. -/
theorem of_segments (d : Dialect) (text : String) :
    Pieces d [] .static text.toList (d.segments text) := by
  have reads := Token.reads_tokens d.escape .static text.toList
  obtain ⟨segments, pieces⟩ := exists_of_reads reads [] .nil
  have yields : d.segments text = segments := pieces.yield_eq
  rw [yields]
  exact pieces

/-- Behind an error there is only static text. -/
theorem static_behind_error (h : Pieces d before z cs segments) :
    segments.Pairwise fun s t => s.kind = .error → t.kind = .static := by
  induction h with
  | @closed before cs m rest z segments _ _ ih =>
      refine .cons ?_ ih
      intro t _ kind
      cases z <;> cases kind
  | static _ _ => exact List.pairwise_singleton _ _
  | slot _ _ => exact List.pairwise_pair.mpr fun _ => rfl

theorem segments_eq {text : String} (h : Pieces d [] .static text.toList segments) :
    d.segments text = segments :=
  h.yield_eq

theorem segments_ofList (h : Pieces d [] .static cs segments) :
    d.segments (.ofList cs) = segments := by
  apply segments_eq
  rw [String.toList_ofList]
  exact h

end Pieces

end Stencil
