import Stencil.Proofs.Continuation
import Stencil.Proofs.EscapeLanguage

/-!
# What is withheld behind a text

Wherever a text ends, what is withheld is nothing or the beginning of one token. A character that
no escape sequence and no delimiter is made of settles it: all of it goes into the content, and the
next delimiter is read as one. Main statement: a slot that a text leaves open is closed by a blank
and a closer, with the content that the error was about.
-/

namespace Stencil

open Segmentation

theorem ne_lead_of_ordinary {c : Char} (ordinary : isDelimiter c = false) (z : Zone) :
    c ≠ z.lead := by
  rintro rfl
  rw [z.isDelimiter_lead] at ordinary
  cases ordinary

theorem ne_follow_of_ordinary {c : Char} (ordinary : isDelimiter c = false) (z : Zone) :
    c ≠ z.follow := by
  rintro rfl
  rw [z.isDelimiter_follow] at ordinary
  cases ordinary

namespace Zone

variable {d : Dialect} {z : Zone} {w : List Char} {c : Char}

/-- What a character can do to what is withheld. It completes the delimiter, or all of it is still
the beginning of a token, or it is a word now and is released as what it stands for. -/
theorem feed_cases (h : Withheld d.escape z w) (c : Char) :
    (w = [z.lead] ∧ c = z.follow ∧ z.feed [d.escape] w [c] = ⟨[], [], true⟩) ∨
    (Withheld d.escape z (w ++ [c]) ∧ z.feed [d.escape] w [c] = ⟨[], w ++ [c], false⟩) ∨
    z.feed [d.escape] w [c] = ⟨unescaped d.escape (w ++ [c]), [], false⟩ := by
  cases h with
  | nothing =>
      by_cases escape : c = d.escape
      · rw [escape]
        exact .inr (.inl ⟨.escape, feed_nothing_escape z d⟩)
      · by_cases lead : c = z.lead
        · rw [lead]
          exact .inr (.inl ⟨.lead, feed_nothing_lead z d⟩)
        · rw [List.nil_append, unescaped_singleton]
          exact .inr (.inr (feed_nothing_single z d escape lead))
  | escape =>
      by_cases escape : c = d.escape
      · have pair : unescaped d.escape [d.escape, d.escape] = [d.escape] := by simp [unescaped]
        rw [escape, List.singleton_append, pair]
        exact .inr (.inr (feed_escape_escape z d))
      · by_cases lead : ∃ y : Zone, c = y.lead
        · obtain ⟨y, rfl⟩ := lead
          exact .inr (.inl ⟨.escapedLead y, feed_escape_lead z d y⟩)
        · rw [List.singleton_append, unescaped_escaped escape]
          exact .inr (.inr (feed_escape_other z d escape (not_exists.mp lead)))
  | escapedLead y =>
      by_cases follow : c = y.follow
      · have word : [d.escape, y.lead] ++ [y.follow] = d.escape :: y.delimiter := by
          rw [delimiter_eq]
          rfl
        rw [follow, word, unescaped_delimiter]
        exact .inr (.inr (feed_escapedLead_follow z d y))
      · have word : unescaped d.escape ([d.escape, y.lead] ++ [c]) = [d.escape, y.lead, c] :=
          unescaped_escapedLead follow
        rw [word]
        exact .inr (.inr (feed_escapedLead_other z d y follow))
  | lead =>
      by_cases follow : c = z.follow
      · rw [follow]
        exact .inl ⟨rfl, rfl, feed_lead_follow z d⟩
      · rw [List.singleton_append, unescaped_cons_of_ne (d.escape_ne_lead z).symm]
        exact .inr (.inr (feed_lead_other z d follow))

/-- Whatever the next character is, what stays withheld is the beginning of a token. -/
theorem withheld_feed (h : Withheld d.escape z w) (c : Char) :
    Withheld d.escape z (z.feed [d.escape] w [c]).held := by
  rcases feed_cases h c with ⟨_, _, closed⟩ | ⟨longer, waits⟩ | settled
  · rw [closed]
    exact .nothing
  · rw [waits]
    exact longer
  · rw [settled]
    exact .nothing

/-- An ordinary character settles whatever is withheld: no token goes on with it. -/
theorem feed_ordinary (h : Withheld d.escape z w) (escape : c ≠ d.escape)
    (ordinary : isDelimiter c = false) : z.feed [d.escape] w [c] = ⟨w ++ [c], [], false⟩ := by
  have lead := ne_lead_of_ordinary ordinary
  have follow := ne_follow_of_ordinary ordinary
  cases h with
  | nothing => exact feed_nothing_single z d escape (lead z)
  | escape => exact feed_escape_other z d escape lead
  | escapedLead y => exact feed_escapedLead_other z d y (follow y)
  | lead => exact feed_lead_other z d (follow z)

end Zone

/-- A blank at the end of a slot is trimmed off. -/
theorem Segment.slot_append_blank {c : Char} (blank : Text.isBlank c = true) (content : String)
    (start : Location) : slot (content ++ .ofList [c]) start = slot content start := by
  have trimmed : Text.trim (content ++ .ofList [c]) = Text.trim content := by
    rw [Text.trim, Text.trim, String.toList_append, String.toList_ofList,
      Text.trimBoth_concat blank]
  rw [slot, slot, trimmed]

namespace Segmentation.State

variable {d : Dialect} {s : State}

theorem withheld_read (h : Withheld d.escape s.zone s.held) (c : Char) :
    Withheld d.escape (s.read d c).1.zone (s.read d c).1.held := by
  simp only [read]
  split
  · exact .nothing
  · exact Zone.withheld_feed h c

/-- Reading goes from beginnings of tokens to beginnings of tokens. -/
theorem withheld_readAll (h : Withheld d.escape s.zone s.held) (cs : List Char) :
    Withheld d.escape (s.readAll d cs).1.zone (s.readAll d cs).1.held := by
  induction cs generalizing s with
  | nil => exact h
  | cons c cs ih =>
      rw [readAll_cons]
      exact ih (withheld_read h c)

/-- A character that leaves nothing withheld and completes no delimiter only adds to the content. -/
theorem readAll_settled {c : Char} {released : List Char}
    (settled : s.zone.feed [d.escape] s.held [c] = ⟨released, [], false⟩) :
    s.readAll d [c] =
      (⟨s.zone, [], s.content ++ .ofList released, s.start, s.here.after d.tab c⟩, []) := by
  rw [readAll_cons, readAll_nil, read, settled]
  rfl

/-- An ordinary character takes all that is withheld into the content. -/
theorem readAll_ordinary (h : Withheld d.escape s.zone s.held) {c : Char} (escape : c ≠ d.escape)
    (ordinary : isDelimiter c = false) :
    s.readAll d [c] = (⟨s.zone, [], s.partialContent ++ .ofList [c], s.start,
      s.here.after d.tab c⟩, []) := by
  rw [readAll_settled (Zone.feed_ordinary h escape ordinary), String.ofList_append,
    ← String.append_assoc, partialContent]

/-- A blank and a closer end a slot, whatever is withheld. -/
theorem yield_blank_closer (h : Withheld d.escape s.zone s.held) (zone : s.zone = .slot) {c : Char}
    (blank : Text.isBlank c = true) (ordinary : isDelimiter c = false) :
    s.yield d (c :: closeDelimiter) =
      [.slot s.partialContent s.start,
        .static "" (s.here.afterAll d.tab (c :: closeDelimiter))] := by
  have settled := readAll_ordinary h (d.ne_escape_of_isBlank blank) ordinary
  have ended := readAll_complete (t := .boundary) d
    (s := ⟨.slot, [], s.partialContent ++ .ofList [c], s.start, s.here.after d.tab c⟩) rfl .boundary
  rw [zone] at settled
  calc
    s.yield d (c :: closeDelimiter) =
        yield d ⟨.slot, [], s.partialContent ++ .ofList [c], s.start, s.here.after d.tab c⟩
          closeDelimiter := by
      rw [← List.singleton_append, yield_append, settled, List.nil_append]
    _ = [.slot (s.partialContent ++ .ofList [c]) s.start,
          .static "" (s.here.afterAll d.tab (c :: closeDelimiter))] :=
      congrArg (fun r => r.2 ++ r.1.finish) ended
    _ = [.slot s.partialContent s.start,
          .static "" (s.here.afterAll d.tab (c :: closeDelimiter))] := by
      rw [Segment.slot_append_blank blank]

end Segmentation.State

namespace Dialect

variable (d : Dialect) (text : String)

theorem withheld_stateBehind :
    Withheld d.escape (d.stateBehind text).zone (d.stateBehind text).held :=
  State.withheld_readAll .nothing text.toList

/-- An error is about all that was read since its slot began. -/
theorem stateBehind_of_unclosed {content : String} {start : Location}
    (opened : Segment.unclosed content start ∈ d.segments text) :
    (d.stateBehind text).zone = .slot ∧ (d.stateBehind text).partialContent = content ∧
      (d.stateBehind text).start = start := by
  have last : Segment.unclosed content start ∈ (d.stateBehind text).finish := by
    rw [segments_eq_closedSegments] at opened
    rcases List.mem_append.mp opened with closed | last
    · have inner := d.isError_of_mem_closedSegments text closed
      cases inner
    · exact last
  cases zone : (d.stateBehind text).zone with
  | static => simp [State.finish, zone, Segment.unclosed, Segment.error, Segment.static] at last
  | slot =>
      simp only [State.finish, zone, List.mem_cons, List.not_mem_nil, or_false] at last
      rcases last with error | static
      · have contents := Segment.unclosedMessage_injective (congrArg Segment.content error)
        have starts := congrArg Segment.start error
        exact ⟨rfl, contents.symm, starts.symm⟩
      · cases congrArg Segment.kind static

end Dialect

/-- A blank and a closer behind a text that leaves a slot open close this slot, whatever the text
breaks off in: the slot takes the place of the error, with the same start and with the content that
the error was about, and an empty static text stands at the end of the whole text. -/
theorem Dialect.segments_append_closer (d : Dialect) (text content : String) (start : Location)
    (opened : Segment.unclosed content start ∈ d.segments text) :
    let whole := text ++ " %>"
    ∃ closed,
      d.segments text =
        closed ++ [.unclosed content start, .static "" (.behind d.tab text.toList)] ∧
      d.segments whole =
        closed ++ [.slot content start, .static "" (.behind d.tab whole.toList)] ∧
      ∀ s ∈ d.segments whole, s.kind ≠ .error := by
  intro whole
  obtain ⟨zone, rfl, rfl⟩ := d.stateBehind_of_unclosed text opened
  have error : d.segments text = d.closedSegments text ++
      [.unclosed (d.stateBehind text).partialContent (d.stateBehind text).start,
        .static "" (.behind d.tab text.toList)] := by
    rw [segments_eq_closedSegments, State.finish, zone, stateBehind_here]
  have slot : d.segments whole = d.closedSegments text ++
      [.slot (d.stateBehind text).partialContent (d.stateBehind text).start,
        .static "" (.behind d.tab whole.toList)] := by
    have yields := State.yield_blank_closer (d.withheld_stateBehind text) zone (c := ' ') rfl rfl
    rw [stateBehind_here, Location.behind_afterAll] at yields
    have more : " %>".toList = ' ' :: closeDelimiter := by decide
    rw [segments_append, String.toList_append, more, yields]
  refine ⟨_, error, slot, ?_⟩
  intro s member
  rw [slot] at member
  rcases List.mem_append.mp member with inner | last
  · have closed := d.isError_of_mem_closedSegments text inner
    simpa [Segment.isError] using closed
  · simp only [List.mem_cons, List.not_mem_nil, or_false] at last
    rcases last with rfl | rfl
    · simp [Segment.slot]
    · simp [Segment.static]

/-- A slot in the second line that breaks off behind an escaped lead of a closer. -/
theorem Dialect.segments_append_closer_escaped_lead :
    let text := "a\n<%x\\%"
    Segment.unclosed "x\\%" ⟨2, 3, 5⟩ ∈ standard.segments text ∧
    (standard.segments (text ++ " %>") =
        [.static "a\n" .origin, .slot "x\\%" ⟨2, 3, 5⟩, .static "" ⟨2, 9, 11⟩] ∧
      ∀ s ∈ standard.segments (text ++ " %>"), s.kind ≠ .error) := by
  intro text
  have opened : Segment.unclosed "x\\%" ⟨2, 3, 5⟩ ∈ standard.segments text := by decide
  obtain ⟨closed, before, behind, none⟩ :=
    segments_append_closer standard text "x\\%" ⟨2, 3, 5⟩ opened
  have split : standard.segments text = [.static "a\n" .origin] ++
      [.unclosed "x\\%" ⟨2, 3, 5⟩, .static "" ⟨2, 6, 8⟩] := by
    decide
  obtain ⟨rfl, _⟩ := List.append_inj' (before.symm.trans split) rfl
  have ends : Location.behind standard.tab (text ++ " %>").toList = ⟨2, 9, 11⟩ := by decide
  rw [ends] at behind
  exact ⟨opened, behind, none⟩

end Stencil
