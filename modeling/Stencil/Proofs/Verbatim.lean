import Mathlib.Data.List.Infix
import Stencil.Proofs.Precedence

/-!
# Texts that stand for themselves

An inert text has no doubled escape character, no escaped closer and no opener in it. It may have
escapes and characters of delimiters in any other order, and it may break off in the middle of a
token: none of its tokens stands for anything but its own characters. Main statement: an inert text
is one static segment, so an inert output is rendered to itself, and no reader and no recovery is
called for it.
-/

namespace Stencil

open Segmentation

/-- A text without a doubled escape character, an escaped closer or an opener. -/
structure Inert (e : Char) (cs : List Char) : Prop where
  escape : ¬ [e, e] <:+: cs
  closer : ¬ e :: closeDelimiter <:+: cs
  opener : ¬ openDelimiter <:+: cs

instance (e : Char) (cs : List Char) : Decidable (Inert e cs) :=
  decidable_of_iff (¬ [e, e] <:+: cs ∧ ¬ e :: closeDelimiter <:+: cs ∧ ¬ openDelimiter <:+: cs)
    ⟨fun ⟨escape, closer, opener⟩ => ⟨escape, closer, opener⟩,
      fun inert => ⟨inert.escape, inert.closer, inert.opener⟩⟩

namespace Inert

variable {e : Char} {cs ds : List Char}

/-- A stretch of an inert text is inert. -/
theorem of_infix (inert : Inert e cs) (stretch : ds <:+: cs) : Inert e ds where
  escape := fun inner => inert.escape (inner.trans stretch)
  closer := fun inner => inert.closer (inner.trans stretch)
  opener := fun inner => inert.opener (inner.trans stretch)

theorem left (inert : Inert e (cs ++ ds)) : Inert e cs :=
  inert.of_infix (List.prefix_append cs ds).isInfix

theorem right (inert : Inert e (cs ++ ds)) : Inert e ds :=
  inert.of_infix (List.suffix_append cs ds).isInfix

end Inert

/-- A complete token that is inert stands for its own characters. -/
theorem Token.Complete.meaning_eq {e : Char} {t : Token} (h : t.Complete e .static)
    (inert : Inert e (t.spelling e .static)) : t.meaning = t.spelling e .static := by
  cases h with
  | escape => exact absurd List.infix_rfl inert.escape
  | delimiter y =>
      cases y with
      | static => exact absurd (List.suffix_cons e openDelimiter).isInfix inert.opener
      | slot => exact absurd List.infix_rfl inert.closer
  | boundary => exact absurd List.infix_rfl inert.opener
  | escapedLead y follow => rfl
  | escapedPlain escape lead => rfl
  | lead follow => rfl
  | single escape lead => rfl

/-- A phrase that is inert stands for its own characters. -/
theorem Phrase.meaning_eq {e : Char} {cs m : List Char} (h : Phrase e .static cs m)
    (inert : Inert e cs) : m = cs := by
  induction h with
  | nil => rfl
  | cons complete _ _ ih => rw [complete.meaning_eq inert.left, ih inert.right]

/-- The only piece of an inert text is all of it. -/
theorem Pieces.eq_of_inert {d : Dialect} {before cs : List Char} {segments : List Segment}
    (h : Pieces d before .static cs segments) (inert : Inert d.escape cs) :
    segments = [.static (.ofList cs) (.behind d.tab before)] := by
  cases h with
  | @closed _ cs _ rest => exact absurd (List.infix_append cs openDelimiter rest) inert.opener
  | static phrase _ => rw [phrase.meaning_eq inert.left]

/-- An inert text is one static segment. -/
theorem Dialect.segments_of_inert (d : Dialect) (text : String)
    (inert : Inert d.escape text.toList) : d.segments text = [.static text .origin] := by
  have one := (Pieces.of_segments d text).eq_of_inert inert
  rwa [String.ofList_toList] at one

/-- Nobody is called for a template of static texts. -/
theorem Parsed.calls_of_static {p : Parsed} (static : ∀ s ∈ p.segments, s.kind = .static)
    (read : SlotReader) (recover : Recovery) : p.calls read recover = [] := by
  have noError : p.error? = none := by
    rw [error?_eq_none_iff]
    intro s member
    simp [static s member]
  rw [calls, slots, Segment.filter_isSlot_of_static static, noError]
  rfl

namespace Source

variable {supply : NameSupply} {read : SlotReader} {recover : Option Recovery} {filling : Filling}

/-- Only a source whose options ask for a dialect has an output. -/
theorem exists_inDialect_of_render {source : Source} {output : String}
    (rendered : (source.render supply read recover filling).1.outcome = .ok output) :
    ∃ d text, source = inDialect d text source.name := by
  apply source.exists_refused_or.resolve_left
  rintro ⟨fault, wrong⟩
  rw [render_of_refused wrong] at rendered
  cases rendered

/-- An inert text is rendered to itself, without any call. -/
theorem render_of_inert {d : Dialect} {text title : String} {name : Option String}
    (inert : Inert d.escape text.toList) (titled : Titled supply name title) :
    ((inDialect d text name).render supply read recover filling).1 =
      ⟨[.compiled 1 (some title), .rendering 1 (some title)], .ok text⟩ := by
  have segments := d.segments_of_inert text inert
  let p : Parsed := ⟨title, d.segments text⟩
  have becomes : List.Forall₂ (Segment.Becomes read (recover.getD .refuse) (some p.name))
      p.segments [.constant text] := by
    simp only [p, segments]
    exact .cons (.static rfl) .nil
  have writes : List.Forall₂ (fun part text => (p.write filling part).outcome = .ok text)
      [Part.constant text] [text] := .cons rfl .nil
  have silent : p.calls read (recover.getD .refuse) = [] := by
    apply Parsed.calls_of_static
    simp [p, segments, Segment.static]
  rw [render_of_course titled (.written becomes writes), silent, segments]
  simp [Event.ofSegment?, Segment.static, Segment.isError, Parsed.notices, Parsed.write,
    Part.constant, String.join]

end Source

/-- A text without doubled escapes, escaped closers and openers is one static segment. If such a
text is the output of a source, it is rendered to itself under the same escape, whatever the tab
width, the name, the reader, the recovery and the filling are, and neither the reader nor the
recovery is called. -/
theorem Source.render_verbatim :
    (∀ (d : Dialect) (text : String), Inert d.escape text.toList →
      d.segments text = [.static text .origin]) ∧
    ∀ (source : Source) (supply : NameSupply) (read : SlotReader) (recover : Option Recovery)
      (filling : Filling) (output : String),
      (source.render supply read recover filling).1.outcome = .ok output →
      ∃ e : Char, source.escape = .text (.singleton e) ∧
        (Inert e output.toList →
          ∀ (tab : Int) (name : Option String) (supply : NameSupply) (read : SlotReader)
            (recover : Option Recovery) (filling : Filling), 1 ≤ tab →
            ∃ title, Titled supply name title ∧
              ((Source.mk (.text output) name source.escape (.int tab)).render supply read recover
                  filling).1 =
                ⟨[.compiled 1 (some title), .rendering 1 (some title)], .ok output⟩) := by
  refine ⟨Dialect.segments_of_inert, ?_⟩
  intro source supply read recover filling output rendered
  obtain ⟨d, text, isSource⟩ := exists_inDialect_of_render rendered
  have escape : source.escape = .text (.singleton d.escape) := congrArg Source.escape isSource
  refine ⟨d.escape, escape, ?_⟩
  intro inert tab name supply read recover filling wide
  have titled := Titled.nameFor supply name
  let other : Dialect := ⟨d.escape, tab, d.escape_free, d.escape_visible, wide⟩
  have again : Source.mk (.text output) name source.escape (.int tab) =
      inDialect other output name := by
    rw [escape]
    rfl
  rw [again]
  exact ⟨_, titled, render_of_inert inert titled⟩

/-- A text with escapes and characters of delimiters in it that breaks off in an escape, and an
output with an escaped lead of an opener and with a closer. -/
theorem Source.render_verbatim_escaped_lead :
    let read := Path.reader .bare
    let text := "a\\<b%>c>%<\\"
    let source := Source.inDialect .standard "a<%x%>%>" none
    let filling : Filling := ⟨some [("x", .text "\\< ")], none, []⟩
    let again := Source.mk (.text "a\\< %>") (some "t") source.escape (.int 4)
    (Inert '\\' text.toList ∧ Dialect.standard.segments text = [.static text .origin]) ∧
    ((source.render .fresh read none filling).1.outcome = .ok "a\\< %>" ∧
      Inert '\\' "a\\< %>".toList ∧ (1 : Int) ≤ 4) ∧
    (again.render .fresh read.noted (some Recovery.literal.noted) filling).1 =
      ⟨[.compiled 1 (some "t"), .rendering 1 (some "t")], .ok "a\\< %>"⟩ := by
  intro read text source filling again
  obtain ⟨verbatim, fixed⟩ := render_verbatim
  have inert : Inert '\\' text.toList := by decide
  have written : Inert '\\' "a\\< %>".toList := by decide
  have segments : Dialect.standard.segments "a<%x%>%>" =
      [.static "a" .origin, .slot "x" ⟨1, 4, 4⟩, .static "%>" ⟨1, 7, 7⟩] := by
    decide
  have rendered : (source.render .fresh read none filling).1.outcome = .ok "a\\< %>" := by
    rw [render_outcome .missing, segments]
    rfl
  have wide : (1 : Int) ≤ 4 := by decide
  refine ⟨⟨inert, verbatim .standard text inert⟩, ⟨rendered, written, wide⟩, ?_⟩
  obtain ⟨e, escape, holds⟩ := fixed source .fresh read none filling _ rendered
  obtain rfl : Dialect.standard.escape = e := by
    simpa using congrArg String.toList (Value.text.inj escape)
  obtain ⟨title, titled, result⟩ := holds written 4 (some "t") .fresh read.noted
    (some Recovery.literal.noted) filling wide
  obtain rfl := titled.eq_nameFor
  exact result

end Stencil
