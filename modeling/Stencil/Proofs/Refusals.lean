import Mathlib.Tactic.TFAE
import Stencil.Proofs.Streaming

/-!
# What is refused

Parsing refuses a source whose text is a value of another kind, whatever its options are, and else a
source whose options are wrong. Options are also looked at on their own, by the reading of all
segments at once, and by a stream at its first segment. Main statement: each source that is not
refused is parsed, whatever its text is, and all places that look at options refuse the same ones
with the same fault.

## Implementation notes

Reading a text in a dialect cannot fail, so a fault comes from the check of the options alone. This
is said for each place by one equivalence, from which the agreement follows.
-/

namespace Stencil

namespace Dialect

variable {escape tab : Value} {fault : Fault}

/-- A single character is refused if it is part of a delimiter or if a slot is trimmed of it. -/
theorem escapeFault_singleton_iff {c : Char} :
    EscapeFault (.text (.singleton c)) fault ↔
      fault = .escapeReserved c ∧ (isDelimiter c = true ∨ Text.trim (.singleton c) = "") := by
  rw [Text.trim_singleton_eq_empty_iff]
  constructor
  · intro wrong
    cases wrong with
    | length several => exact absurd rfl (several c)
    | reserved spelled taken =>
        obtain rfl : c = _ := by simpa using congrArg String.toList (Value.text.inj spelled)
        exact ⟨rfl, taken⟩
  · rintro ⟨rfl, taken⟩
    exact .reserved rfl taken

end Dialect

namespace Source

variable {source : Source} {supply : NameSupply} {escape tab : Value} {text : String}
variable {fault : Fault}

/-- Parsing fails only where the check does. -/
theorem parse_outcome_eq_error_iff (supply : NameSupply) :
    (source.parse supply).1.outcome = .error fault ↔ source.check = .error fault := by
  unfold parse
  cases source.check with
  | error other => simp [Traced.fail]
  | ok found => simp [Traced.map_eq, Traced.ofSegments, Except.map]

/-- What passes the check is parsed into the segments of its text. -/
theorem parse_outcome_eq_ok_iff {p : Parsed} :
    (source.parse supply).1.outcome = .ok p ↔
      ∃ (d : Dialect) (text : String), source = inDialect d text source.name ∧
        Titled supply source.name p.name ∧ p.segments = d.segments text := by
  constructor
  · intro parsed
    rcases source.exists_refused_or with ⟨fault, wrong⟩ | ⟨d, text, isSource⟩
    · rw [(parse_outcome_eq_error_iff supply).mpr (check_of_refused wrong)] at parsed
      cases parsed
    · rw [isSource, parse_inDialect] at parsed
      cases parsed
      exact ⟨d, text, isSource, Titled.nameFor supply source.name, rfl⟩
  · rintro ⟨d, text, isSource, titled, contents⟩
    rw [isSource, parse_inDialect, ← titled.eq_nameFor, ← contents]

/-- Parsing succeeds unless there is something wrong with the source. -/
theorem exists_parse_outcome_iff :
    (∃ p, (source.parse supply).1.outcome = .ok p) ↔ ∀ fault, ¬ source.Refused fault := by
  simp only [← check_eq_error_iff, ← parse_outcome_eq_error_iff supply]
  cases (source.parse supply).1.outcome <;> simp

theorem segments_outcome_eq_error_iff :
    (segments escape tab text).outcome = .error fault ↔
      Dialect.check escape tab = .error fault := by
  unfold segments
  cases Dialect.check escape tab with
  | error other => simp [Traced.fail]
  | ok d => simp [Traced.ofSegments]

end Source

/-- The first segment that a stream is asked for fails only where the check does. -/
theorem Stream.pull_outcome_eq_error_iff {escape tab : Value} {text : String} {fault : Fault} :
    (unchecked escape tab text).pull.1.outcome = .error fault ↔
      Dialect.check escape tab = .error fault := by
  cases options : Dialect.check escape tab with
  | error other => simp [Stream.pull, options, Traced.fail]
  | ok d => simp [Stream.pull, options, announce]

/-- Parsing refuses exactly what is wrong with a source: the kind of its text, then its options. All
other sources are parsed, into the segments of their text. An escape is also wrong if it is one of
the characters of which slots are trimmed. For a text, wrong options are refused with the same fault
on their own, when all segments are read, when a stream is asked for the first one, and when the
text is parsed. -/
theorem Source.parse_outcome_iff_refused (source : Source) (supply : NameSupply) :
    (∀ fault, (source.parse supply).1.outcome = .error fault ↔ source.Refused fault) ∧
    ((∃ p, (source.parse supply).1.outcome = .ok p) ↔ ∀ fault, ¬ source.Refused fault) ∧
    (∀ p, (source.parse supply).1.outcome = .ok p ↔
      ∃ (d : Dialect) (text : String), source = inDialect d text source.name ∧
        Titled supply source.name p.name ∧ p.segments = d.segments text) ∧
    (∀ c fault, Dialect.EscapeFault (.text (.singleton c)) fault ↔
      fault = .escapeReserved c ∧ (isDelimiter c = true ∨ Text.trim (.singleton c) = "")) ∧
    ∀ (text : String) (fault : Fault), List.TFAE [
      Dialect.OptionFault source.escape source.tab fault,
      Dialect.check source.escape source.tab = .error fault,
      (segments source.escape source.tab text).outcome = .error fault,
      (Stream.unchecked source.escape source.tab text).pull.1.outcome = .error fault,
      ((Source.mk (.text text) source.name source.escape source.tab).parse supply).1.outcome =
        .error fault] := by
  refine ⟨?_, exists_parse_outcome_iff, ?_, ?_, ?_⟩
  · intro fault
    rw [parse_outcome_eq_error_iff, check_eq_error_iff]
  · intro p
    exact parse_outcome_eq_ok_iff
  · intro c fault
    exact Dialect.escapeFault_singleton_iff
  · intro text fault
    tfae_have 2 ↔ 1 := Dialect.check_eq_error_iff
    tfae_have 3 ↔ 2 := segments_outcome_eq_error_iff
    tfae_have 4 ↔ 2 := Stream.pull_outcome_eq_error_iff
    tfae_have 5 ↔ 1 := by
      rw [parse_outcome_eq_error_iff, check_eq_error_iff]
      constructor
      · rintro (other | ⟨_, wrong⟩)
        · exact absurd rfl (other text)
        · exact wrong
      · intro wrong
        exact .options rfl wrong
    tfae_finish

/-- A truth value is no tab width, but the delimiter that is given as the escape is wrong first. -/
example :
    ((Source.mk (.text "<%") none (.text "<") (.bool true)).parse .fresh).1.outcome =
      .error (.escapeReserved '<') := by
  rfl

end Stencil
