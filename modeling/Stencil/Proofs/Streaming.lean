import Stencil.Proofs.Options
import Stencil.Proofs.TokenReading
import Stencil.Session

/-!
# Streams and rows of segments

A stream stands for the segments that it has still to give out: for all segments of its text before
anything was asked for, later for those that reading yields from where it stands. Asking for a
segment gives the first one and leaves a stream for the others, also where reading stops between
the two segments at the end of an open slot. Main statement: asked again and again, a stream gives
the segments of its text in order and then nothing more; a stream with wrong options fails as
parsing does, and only once.
-/

namespace Stencil

open Segmentation

namespace Stream

/-- The segments that a stream has still to give out. -/
inductive Holds : Stream → List Segment → Prop where
  | unchecked {escape tab : Value} {d : Dialect} (text : String) :
      Dialect.check escape tab = .ok d → Holds (.unchecked escape tab text) (d.segments text)
  | reading (d : Dialect) (s : State) (rest : List Char) :
      Holds (.reading d s rest) (s.yield d rest)
  | ending (segments : List Segment) : Holds (.ending segments) segments

/-- What a stream answers when it gives out a segment or has none left. -/
def answer (segment? : Option Segment) : Traced (Option Segment) :=
  ⟨(segment?.bind Event.ofSegment?).toList, .ok segment?⟩

theorem pullEnding_holds (segments : List Segment) :
    (pullEnding segments).1 = segments.head? ∧ (pullEnding segments).2.Holds segments.tail := by
  cases segments with
  | nil => exact ⟨rfl, .ending []⟩
  | cons s segments => exact ⟨rfl, .ending segments⟩

/-- Reading on gives the first segment that the state yields and stops right behind it. -/
theorem pullReading_holds (d : Dialect) (s : State) (cs : List Char) :
    (pullReading d s cs).1 = (s.yield d cs).head? ∧
      (pullReading d s cs).2.Holds (s.yield d cs).tail := by
  induction cs generalizing s with
  | nil => exact pullEnding_holds s.finish
  | cons c cs ih =>
      rw [State.yield_cons, pullReading]
      obtain ⟨s', segment?⟩ := s.read d c
      cases segment? with
      | none => exact ih s'
      | some segment => exact ⟨rfl, .reading d s' cs⟩

/-- A stream gives the first of its segments and holds the others from then on. -/
theorem Holds.pull {st : Stream} {segments : List Segment} (h : st.Holds segments) :
    st.pull.1 = answer segments.head? ∧ st.pull.2.Holds segments.tail := by
  cases h with
  | @unchecked escape tab d text accepted =>
      obtain ⟨first, later⟩ := pullReading_holds d .initial text.toList
      simp only [Stream.pull, accepted]
      exact ⟨congrArg answer first, later⟩
  | reading d s rest =>
      obtain ⟨first, later⟩ := pullReading_holds d s rest
      exact ⟨congrArg answer first, later⟩
  | ending =>
      obtain ⟨first, later⟩ := pullEnding_holds segments
      exact ⟨congrArg answer first, later⟩

/-- Asked `n` times, a stream gives its segments in order, and nothing behind the last one. -/
theorem Holds.pullMany {st : Stream} {segments : List Segment} (h : st.Holds segments) (n : Nat) :
    (st.pullMany n).1 = (List.range n).map fun i => answer segments[i]? := by
  induction n generalizing st segments with
  | zero => rfl
  | succ n ih =>
      obtain ⟨first, later⟩ := h.pull
      rw [pullMany_succ, first, ih later, List.range_succ_eq_map, List.map_cons, List.map_map,
        List.head?_eq_getElem?]
      simp only [Function.comp_def, List.getElem?_tail]

/-- A stream with wrong options fails when it is asked first and has nothing to give afterwards. -/
theorem pullMany_of_error {escape tab : Value} {fault : Fault}
    (refused : Dialect.check escape tab = .error fault) (text : String) (n : Nat) :
    ((unchecked escape tab text).pullMany n).1 =
      (List.range n).map fun i => if i = 0 then Traced.fail fault else pure none := by
  cases n with
  | zero => rfl
  | succ n =>
      have first : (unchecked escape tab text).pull = (Traced.fail fault, ended) := by
        rw [Stream.pull, refused]
      have later := (Holds.ending []).pullMany n
      rw [pullMany_succ, first, List.range_succ_eq_map, List.map_cons, List.map_map]
      exact congrArg (Traced.fail fault :: ·) later

end Stream

namespace Session

/-- Asking a kept stream again and again is asking that stream. -/
theorem performAll_pulls {s : Session} {name : String} {st : Stream}
    (kept : s.streams.lookup name = some st) (n : Nat) :
    (s.performAll (.replicate n (.pull name))).1 =
      (st.pullMany n).1.map (Reply.pulled <$> ·) := by
  induction n generalizing s st with
  | zero => rfl
  | succ n ih =>
      have step : s.perform (.pull name) =
          (Reply.pulled <$> st.pull.1,
            { s with streams := (name, st.pull.2) :: s.streams }) := by
        rw [perform, kept]
      rw [List.replicate_succ, performAll_cons, step]
      exact congrArg (_ :: ·) (ih List.lookup_cons_self)

end Session

/-- Opening a stream never fails, and asking it `n` times answers as its options allow. Options of a
dialect give the segments of the text one by one, as reading the whole text at once does, and
nothing behind the last one. Wrong options give the fault that reading and parsing the text have,
once, and nothing afterwards. -/
theorem Stream.pullMany_unchecked (escape tab : Value) (text : String) (n : Nat) :
    let answers := ((Stream.unchecked escape tab text).pullMany n).1
    (∀ (s : Session) (into : String),
      (s.performAll (.openStream escape tab text into :: .replicate n (.pull into))).1 =
        pure .opened :: answers.map (Session.Reply.pulled <$> ·)) ∧
    match Dialect.check escape tab with
    | .ok d =>
      (escape = .text (.singleton d.escape) ∧ tab = .int d.tab) ∧
      (Source.segments escape tab text).outcome = .ok (d.segments text) ∧
      answers = (List.range n).map fun i => answer (d.segments text)[i]?
    | .error fault =>
      Dialect.OptionFault escape tab fault ∧
      (Source.segments escape tab text).outcome = .error fault ∧
      (∀ (name : Option String) (supply : NameSupply),
        ((Source.mk (.text text) name escape tab).parse supply).1.outcome = .error fault) ∧
      answers = (List.range n).map fun i => if i = 0 then Traced.fail fault else pure none := by
  intro answers
  refine ⟨?_, ?_⟩
  · intro s into
    exact congrArg (_ :: ·) (Session.performAll_pulls List.lookup_cons_self n)
  · cases checked : Dialect.check escape tab with
    | ok d =>
        refine ⟨Dialect.check_eq_ok_iff.mp checked, ?_, (Holds.unchecked text checked).pullMany n⟩
        rw [Source.segments, checked]
        rfl
    | error fault =>
        refine ⟨Dialect.check_eq_error_iff.mp checked, ?_, ?_, pullMany_of_error checked text n⟩
        · rw [Source.segments, checked]
          rfl
        · intro name supply
          simp only [Source.parse, Source.check, checked]
          rfl

end Stencil
