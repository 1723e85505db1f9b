import Mathlib.Algebra.Ring.Parity
import Stencil.Proofs.Withholding

/-!
# Runs of escapes in front of a delimiter

In a run of escape characters the first protects the second, the third protects the fourth, and so
on; one that is left over protects the delimiter behind the run. If something is withheld in front
of the run, the first escape goes with it, and the pairs begin behind that one. Main statement:
whether a delimiter behind a run of escapes is one is told by the parity of the run and by whether
anything is withheld in front of it.
-/

namespace Stencil

open Segmentation

namespace Phrase

variable (e : Char) (z : Zone) (j : Nat)

/-- Escapes in pairs stand for half of them. -/
theorem escapes : Phrase e z (.replicate (2 * j) e) (.replicate j e) := by
  induction j with
  | zero => exact .nil
  | succ j ih =>
      have pair : Phrase e z [e, e] [e] := single .escape nofun
      exact pair.append ih

/-- One more escape protects the delimiter. -/
theorem escapes_delimiter :
    Phrase e z (.replicate (2 * j + 1) e ++ z.delimiter) (.replicate j e ++ z.delimiter) := by
  have last : Phrase e z (e :: z.delimiter) z.delimiter :=
    single (t := .escaped z.delimiter) (.delimiter z) nofun
  rw [List.replicate_succ', List.append_assoc]
  exact (escapes e z j).append last

end Phrase

namespace Zone

variable {d : Dialect} {z : Zone} {w : List Char}

/-- An escape goes with what is withheld in front of it. -/
theorem feed_escape_of_held (h : Withheld d.escape z w) (held : w ≠ []) :
    ∃ released, z.feed [d.escape] w [d.escape] = ⟨released, [], false⟩ := by
  have follow (y : Zone) : d.escape ≠ y.follow :=
    (d.ne_escape_of_isDelimiter y.isDelimiter_follow).symm
  cases h with
  | nothing => exact absurd rfl held
  | escape => exact ⟨_, feed_escape_escape z d⟩
  | escapedLead y => exact ⟨_, feed_escapedLead_other z d y (follow y)⟩
  | lead => exact ⟨_, feed_lead_other z d (follow z)⟩

/-- The lead of a delimiter goes with what is withheld in front of it. Only behind an escape it is
withheld itself. -/
theorem feed_lead_of_held (h : Withheld d.escape z w) (held : w ≠ []) :
    z.feed [d.escape] w [z.lead] = ⟨[], [d.escape, z.lead], false⟩ ∨
      ∃ released, z.feed [d.escape] w [z.lead] = ⟨released, [], false⟩ := by
  cases h with
  | nothing => exact absurd rfl held
  | escape => exact .inl (feed_escape_lead z d z)
  | escapedLead y =>
      by_cases meets : z.lead = y.follow
      · rw [meets]
        exact .inr ⟨_, feed_escapedLead_follow z d y⟩
      · exact .inr ⟨_, feed_escapedLead_other z d y meets⟩
  | lead =>
      have apart : z.lead ≠ z.follow := by cases z <;> decide
      exact .inr ⟨_, feed_lead_other z d apart⟩

/-- The second character of a delimiter stands for itself if nothing is withheld. -/
theorem feed_nothing_follow : z.feed [d.escape] [] [z.follow] = ⟨[z.follow], [], false⟩ := by
  have apart : z.follow ≠ z.lead := by cases z <;> decide
  exact feed_nothing_single z d (d.ne_escape_of_isDelimiter z.isDelimiter_follow) apart

end Zone

namespace Segmentation.State

variable {d : Dialect} {s : State}

/-- What comes out of a text comes out of its beginnings or behind them. -/
theorem readAll_front_eq_nil {cs ds : List Char} (front : ds <+: cs)
    (inner : (s.readAll d cs).2 = []) : (s.readAll d ds).2 = [] := by
  obtain ⟨rest, rfl⟩ := front
  rw [readAll_append] at inner
  exact (List.append_eq_nil_iff.mp inner).1

/-- The state behind some characters of which the last one completes the delimiter. -/
def crossed (d : Dialect) (s : State) (cs : List Char) : State :=
  ⟨s.zone.other, [], "", s.here.afterAll d.tab cs, s.here.afterAll d.tab cs⟩

/-- Behind pairs of escapes, with nothing withheld in front of them, a delimiter is one. -/
theorem readAll_escapes_even (held : s.held = []) (j : Nat) :
    let run := List.replicate (2 * j) d.escape ++ s.zone.delimiter
    s.readAll d run = (s.crossed d run,
      [s.zone.segment (s.content ++ .ofList (.replicate j d.escape)) s.start]) := by
  intro run
  obtain ⟨z, w, content, start, here⟩ := s
  obtain rfl : w = [] := held
  have pairs := readAll_phrase d (.escapes d.escape z j) content start here
  have ended := readAll_complete (t := .boundary) d
    (s := ⟨z, [], content ++ .ofList (.replicate j d.escape), start,
      here.afterAll d.tab (.replicate (2 * j) d.escape)⟩) rfl .boundary
  rw [readAll_append, pairs]
  simp only [Token.spelling] at ended
  rw [ended, pass, Token.spelling, crossed, Location.afterAll_append]
  rfl

/-- One more escape makes the delimiter a part of the content. -/
theorem readAll_escapes_odd (held : s.held = []) (j : Nat) :
    let run := List.replicate (2 * j + 1) d.escape ++ s.zone.delimiter
    s.readAll d run =
      (⟨s.zone, [], s.content ++ .ofList (.replicate j d.escape ++ s.zone.delimiter), s.start,
        s.here.afterAll d.tab run⟩, []) := by
  intro run
  obtain ⟨z, w, content, start, here⟩ := s
  obtain rfl : w = [] := held
  exact readAll_phrase d (.escapes_delimiter d.escape z j) content start here

/-- Right behind something that is withheld, a delimiter is none. -/
theorem readAll_delimiter_of_held (h : Withheld d.escape s.zone s.held) (held : s.held ≠ []) :
    (s.readAll d s.zone.delimiter).2 = [] := by
  rw [Zone.delimiter_eq, readAll_cons]
  rcases Zone.feed_lead_of_held h held with waits | ⟨released, settled⟩
  · simp [read, waits, readAll_cons]
  · simp [read, settled, readAll_cons, Zone.feed_nothing_follow]

/-- Half of the escapes in a run get into the content, and one that is left over is withheld. -/
theorem readAll_escapes_content (held : s.held = []) (k : Nat) :
    (s.readAll d (.replicate k d.escape)).1.content =
      s.content ++ .ofList (.replicate (k / 2) d.escape) := by
  obtain ⟨z, w, content, start, here⟩ := s
  obtain rfl : w = [] := held
  obtain ⟨j, rfl | rfl⟩ := Nat.even_or_odd' k
  · have half : 2 * j / 2 = j := by omega
    rw [readAll_phrase d (.escapes d.escape z j), half]
  · have half : (2 * j + 1) / 2 = j := by omega
    rw [List.replicate_succ', readAll_append, readAll_phrase d (.escapes d.escape z j),
      readAll_withheld d rfl .escape, half]

/-- No delimiter is complete within a run of escapes and the lead behind it, if nothing is withheld
in front of them. -/
theorem readAll_escapes_lead (held : s.held = []) (k : Nat) :
    (s.readAll d (.replicate k d.escape ++ [s.zone.lead])).2 = [] := by
  obtain ⟨j, rfl | rfl⟩ := Nat.even_or_odd' k
  · obtain ⟨z, w, content, start, here⟩ := s
    obtain rfl : w = [] := held
    rw [readAll_append, readAll_phrase d (.escapes d.escape z j), readAll_withheld d rfl .lead]
    rfl
  · have whole := congrArg Prod.snd (readAll_escapes_odd (d := d) held j)
    apply readAll_front_eq_nil _ whole
    rw [Zone.delimiter_eq]
    exact ⟨[s.zone.follow], by simp⟩

/-- A run of escapes and a delimiter, whatever is withheld in front of them. No delimiter is
complete before the last character, and at the last one it is by the parity of the run. If anything
is withheld, the first escape goes with it, and the others are a run on their own. -/
theorem readAll_escapes (h : Withheld d.escape s.zone s.held) (k : Nat) :
    let run := List.replicate k d.escape ++ s.zone.delimiter
    (s.readAll d (.replicate k d.escape ++ [s.zone.lead])).2 = [] ∧
    if s.held = [] ∧ Even k ∨ s.held ≠ [] ∧ Odd k then
      ∃ content, s.readAll d run = (s.crossed d run, [s.zone.segment content s.start])
    else (s.readAll d run).2 = [] := by
  intro run
  by_cases held : s.held = []
  · refine ⟨readAll_escapes_lead held k, ?_⟩
    obtain ⟨j, rfl | rfl⟩ := Nat.even_or_odd' k
    · rw [if_pos (.inl ⟨held, even_two_mul j⟩)]
      exact ⟨_, readAll_escapes_even held j⟩
    · rw [if_neg (by simp [held])]
      exact congrArg Prod.snd (readAll_escapes_odd (d := d) held j)
  · cases k with
    | zero =>
        have none := readAll_delimiter_of_held h held
        rw [if_neg (by simp [held])]
        refine ⟨readAll_front_eq_nil ?_ none, none⟩
        rw [Zone.delimiter_eq]
        exact ⟨[s.zone.follow], rfl⟩
    | succ k =>
        obtain ⟨released, settled⟩ := Zone.feed_escape_of_held h held
        let s' : State := ⟨s.zone, [], s.content ++ .ofList released, s.start,
          s.here.after d.tab d.escape⟩
        have skip (cs : List Char) : s.readAll d (d.escape :: cs) = s'.readAll d cs := by
          rw [← List.singleton_append, readAll_append, readAll_settled settled, List.nil_append]
        have run_eq : run = d.escape :: (.replicate k d.escape ++ s'.zone.delimiter) := rfl
        refine ⟨?_, ?_⟩
        · rw [List.replicate_succ, List.cons_append, skip]
          exact readAll_escapes_lead (s := s') rfl k
        · rw [run_eq, skip]
          obtain ⟨j, rfl | rfl⟩ := Nat.even_or_odd' k
          · rw [if_pos (.inr ⟨held, odd_two_mul_add_one j⟩)]
            exact ⟨_, readAll_escapes_even (s := s') rfl j⟩
          · rw [if_neg (by simp [held, Nat.odd_add_one])]
            exact congrArg Prod.snd (readAll_escapes_odd (s := s') (d := d) rfl j)

/-- The beginnings of such a run end no segment. -/
theorem readAll_take_escapes (h : Withheld d.escape s.zone s.held) {k m : Nat} (early : m ≤ k + 1) :
    (s.readAll d ((List.replicate k d.escape ++ s.zone.delimiter).take m)).2 = [] := by
  obtain ⟨inFront, _⟩ := readAll_escapes h k
  have split : List.replicate k d.escape ++ s.zone.delimiter =
      (List.replicate k d.escape ++ [s.zone.lead]) ++ [s.zone.follow] := by
    rw [Zone.delimiter_eq, List.append_assoc, List.singleton_append]
  apply readAll_front_eq_nil _ inFront
  rw [split, List.take_append_of_le_length (by simpa using early)]
  exact List.take_prefix m _

end Segmentation.State

/-- The zone that is crossed into behind a text begins where the characters end. -/
theorem Dialect.crossed_stateBehind (d : Dialect) (text : String) (cs : List Char) :
    (d.stateBehind text).crossed d cs =
      .opening d (d.stateBehind text).zone.other (text.toList ++ cs) := by
  rw [State.crossed, stateBehind_here, Location.behind_afterAll]
  rfl

/-- A run of escapes behind a text, with the delimiter of its last zone behind the run. Within these
characters no delimiter is complete before the last one. There it is complete exactly if the run is
even and nothing is withheld behind the text, or if the run is odd and something is. If nothing is
withheld, half of the escapes get into the content, and the delimiter follows them there if it does
not count. -/
theorem Dialect.closedSegments_escapes (d : Dialect) (text : String) (k : Nat) :
    let s := d.stateBehind text
    let run := List.replicate k d.escape ++ s.zone.delimiter
    let whole := text ++ .ofList run
    (∀ m ≤ k + 1, d.closedSegments (text ++ .ofList (run.take m)) = d.closedSegments text) ∧
    (if s.held = [] ∧ Even k ∨ s.held ≠ [] ∧ Odd k then
      ∃ content, d.closedSegments whole =
          d.closedSegments text ++ [s.zone.segment content s.start] ∧
        d.stateBehind whole = .opening d s.zone.other whole.toList
    else d.closedSegments whole = d.closedSegments text) ∧
    (s.held = [] →
      let copies := List.replicate (k / 2) d.escape
      (d.stateBehind (text ++ .ofList (.replicate k d.escape))).content =
        s.content ++ .ofList copies ∧
      (Even k → d.closedSegments whole =
        d.closedSegments text ++ [s.zone.segment (s.content ++ .ofList copies) s.start]) ∧
      (Odd k → (d.stateBehind whole).content =
        s.content ++ .ofList (copies ++ s.zone.delimiter))) := by
  intro s run whole
  have closed (cs : List Char) :
      d.closedSegments (text ++ .ofList cs) = d.closedSegments text ++ (s.readAll d cs).2 := by
    rw [closedSegments_append, String.toList_ofList]
  have behind (cs : List Char) : d.stateBehind (text ++ .ofList cs) = (s.readAll d cs).1 := by
    rw [stateBehind_append, String.toList_ofList]
  have withheld := d.withheld_stateBehind text
  refine ⟨?_, ?_, ?_⟩
  · intro m early
    rw [closed, State.readAll_take_escapes withheld early, List.append_nil]
  · obtain ⟨_, parity⟩ := State.readAll_escapes withheld k
    split at parity
    · rename_i counts
      obtain ⟨content, crossed⟩ := parity
      rw [if_pos counts]
      refine ⟨content, by rw [closed, crossed], ?_⟩
      rw [behind, crossed, crossed_stateBehind, String.toList_append, String.toList_ofList]
    · rename_i counts
      rw [if_neg counts, closed, parity, List.append_nil]
  · intro held copies
    refine ⟨?_, ?_, ?_⟩
    · rw [behind, State.readAll_escapes_content held]
    · intro even
      have ends := State.readAll_escapes_even (d := d) held (k / 2)
      rw [Nat.two_mul_div_two_of_even even] at ends
      rw [closed, ends]
    · intro odd
      have inner := State.readAll_escapes_odd (d := d) held (k / 2)
      rw [Nat.two_mul_div_two_add_one_of_odd odd] at inner
      rw [behind, inner]

/-- Three and four escapes in a slot, behind plain text and behind the lead of a closer. -/
theorem Dialect.closedSegments_escapes_lead :
    let closer (text : String) (k : Nat) :=
      text ++ .ofList (List.replicate k '\\' ++ (standard.stateBehind text).zone.delimiter)
    let static := Segment.static "" .origin
    ((standard.stateBehind "<%a").held = [] ∧ Even 4 ∧
      standard.closedSegments (closer "<%a" 4) = [static, .slot "a\\\\" ⟨1, 3, 3⟩]) ∧
    (Odd 3 ∧ (standard.stateBehind (closer "<%a" 3)).content = "a\\%>") ∧
    ((standard.stateBehind "<%a%").held ≠ [] ∧ ∃ content,
      standard.closedSegments (closer "<%a%" 3) = [static, .slot content ⟨1, 3, 3⟩]) ∧
    (4 ≤ 3 + 1 ∧ standard.closedSegments "<%a%\\\\\\%" = [static]) := by
  intro closer static
  have free : (standard.stateBehind "<%a").held = [] := by decide
  have even : Even 4 := by decide
  have odd : Odd 3 := by decide
  have withheld : (standard.stateBehind "<%a%").held ≠ [] := by decide
  obtain ⟨_, _, four⟩ := closedSegments_escapes standard "<%a" 4
  obtain ⟨_, _, three⟩ := closedSegments_escapes standard "<%a" 3
  obtain ⟨early, counts, _⟩ := closedSegments_escapes standard "<%a%" 3
  rw [if_pos (.inr ⟨withheld, odd⟩)] at counts
  obtain ⟨content, closed, _⟩ := counts
  refine ⟨⟨free, even, ?_⟩, ⟨odd, ?_⟩, ⟨withheld, content, ?_⟩, le_rfl, ?_⟩
  · exact (four free).2.1 even
  · exact (three free).2.2 odd
  · exact closed
  · exact early 4 le_rfl

end Stencil
