import Stencil.Proofs.Parsing

/-!
# Options that make no dialect

An escape is wrong if it is not a single character, or if its character is part of a delimiter or
blank; a tab width is wrong if it is not a positive whole number. Main statements: options are
refused exactly with what is wrong with them, the escape before the tab width, and options with
nothing wrong are those of a dialect. Sources are refused likewise, for their text before their
options.
-/

namespace Stencil

namespace Dialect

/-- What is wrong with a value as the escape character. -/
inductive EscapeFault (escape : Value) : Fault → Prop where
  | length : (∀ c : Char, escape ≠ .text (.singleton c)) → EscapeFault escape (.escapeLength escape)
  | reserved {c : Char} :
      escape = .text (.singleton c) → isDelimiter c = true ∨ Text.isBlank c = true →
      EscapeFault escape (.escapeReserved c)

/-- What is wrong with a value as the tab width. -/
inductive TabFault (tab : Value) : Fault → Prop where
  | width : (∀ i : Int, tab = .int i → i < 1) → TabFault tab (.tabWidth tab)

/-- What is wrong with options. The tab width counts only if the escape is in order. -/
inductive OptionFault (escape tab : Value) : Fault → Prop where
  | escape {fault : Fault} : EscapeFault escape fault → OptionFault escape tab fault
  | tab {fault : Fault} :
      (∀ other, ¬ EscapeFault escape other) → TabFault tab fault → OptionFault escape tab fault

variable {escape tab : Value} {fault : Fault}

theorem checkEscape_of_escapeFault (h : EscapeFault escape fault) :
    checkEscape escape = .error fault := by
  cases h with
  | length several =>
      unfold checkEscape
      split
      · rename_i s
        split
        · rename_i c single
          have spelled : s = .singleton c := String.toList_inj.mp (by simpa using single)
          exact absurd (congrArg Value.text spelled) (several c)
        · rfl
      · rfl
  | @reserved c spelled taken =>
      have notFree : ¬ (isDelimiter c = false ∧ Text.isBlank c = false) := by
        rcases taken with delimiter | blank
        · simp [delimiter]
        · simp [blank]
      simp [spelled, checkEscape, notFree]

theorem checkTab_of_tabFault (h : TabFault tab fault) : checkTab tab = .error fault := by
  obtain ⟨narrow⟩ := h
  unfold checkTab
  split
  · rename_i i
    have small := narrow i rfl
    rw [dif_neg (by omega)]
  · rfl

/-- A value with nothing wrong is a character that an escape can be. -/
theorem exists_escapeFault_or (escape : Value) :
    (∃ fault, EscapeFault escape fault) ∨
      ∃ c, escape = .text (.singleton c) ∧ isDelimiter c = false ∧ Text.isBlank c = false := by
  by_cases single : ∃ c : Char, escape = .text (.singleton c)
  · obtain ⟨c, spelled⟩ := single
    cases delimiter : isDelimiter c with
    | true => exact .inl ⟨_, .reserved spelled (.inl delimiter)⟩
    | false =>
        cases blank : Text.isBlank c with
        | true => exact .inl ⟨_, .reserved spelled (.inr blank)⟩
        | false => exact .inr ⟨c, spelled, delimiter, blank⟩
  · exact .inl ⟨_, .length (not_exists.mp single)⟩

/-- A value with nothing wrong is a positive whole number. -/
theorem exists_tabFault_or (tab : Value) :
    (∃ fault, TabFault tab fault) ∨ ∃ i : Int, tab = .int i ∧ 1 ≤ i := by
  by_cases wide : ∃ i : Int, tab = .int i ∧ 1 ≤ i
  · exact .inr wide
  · refine .inl ⟨_, .width ?_⟩
    intro i whole
    apply Int.not_le.mp
    intro positive
    exact wide ⟨i, whole, positive⟩

/-- Options with nothing wrong are those of a dialect. -/
theorem exists_optionFault_or (escape tab : Value) :
    (∃ fault, OptionFault escape tab fault) ∨
      ∃ d : Dialect, escape = .text (.singleton d.escape) ∧ tab = .int d.tab := by
  by_cases wrong : ∃ fault, EscapeFault escape fault
  · obtain ⟨fault, wrong⟩ := wrong
    exact .inl ⟨fault, .escape wrong⟩
  · obtain ⟨c, spelled, free, visible⟩ := (exists_escapeFault_or escape).resolve_left wrong
    rcases exists_tabFault_or tab with ⟨fault, narrow⟩ | ⟨i, whole, wide⟩
    · exact .inl ⟨fault, .tab (not_exists.mp wrong) narrow⟩
    · exact .inr ⟨⟨c, i, free, visible, wide⟩, spelled, whole⟩

theorem check_of_optionFault (h : OptionFault escape tab fault) :
    check escape tab = .error fault := by
  unfold check
  cases h with
  | escape wrong => rw [checkEscape_of_escapeFault wrong]
  | tab inOrder wrong =>
      obtain ⟨c, rfl, free, visible⟩ :=
        (exists_escapeFault_or escape).resolve_left fun ⟨other, h⟩ => inOrder other h
      have accepted : checkEscape (.text (.singleton c)) = .ok ⟨c, free, visible⟩ := by
        simp [checkEscape, free, visible]
      rw [accepted, checkTab_of_tabFault wrong]

/-- Options are refused exactly with what is wrong with them. -/
theorem check_eq_error_iff : check escape tab = .error fault ↔ OptionFault escape tab fault := by
  constructor
  · intro h
    rcases exists_optionFault_or escape tab with ⟨other, wrong⟩ | ⟨d, rfl, rfl⟩
    · rw [check_of_optionFault wrong] at h
      cases h
      exact wrong
    · rw [d.check_options] at h
      cases h
  · exact check_of_optionFault

/-- Options are accepted exactly if they are those of the dialect that they make. -/
theorem check_eq_ok_iff {d : Dialect} :
    check escape tab = .ok d ↔ escape = .text (.singleton d.escape) ∧ tab = .int d.tab := by
  constructor
  · intro h
    rcases exists_optionFault_or escape tab with ⟨fault, wrong⟩ | ⟨other, rfl, rfl⟩
    · rw [check_of_optionFault wrong] at h
      cases h
    · rw [other.check_options] at h
      cases h
      exact ⟨rfl, rfl⟩
  · rintro ⟨rfl, rfl⟩
    exact d.check_options

/-- Without options, the dialect is the standard one. -/
example : check defaultEscape defaultTab = .ok standard := by
  rfl

end Dialect

namespace Source

/-- What is wrong with a source. Its options count only if its text is one. -/
inductive Refused (source : Source) : Fault → Prop where
  | notText :
      (∀ text, source.text ≠ .text text) → Refused source (.notText source.text.kind)
  | options {text : String} {fault : Fault} :
      source.text = .text text → Dialect.OptionFault source.escape source.tab fault →
      Refused source fault

variable {source : Source} {fault : Fault}

/-- A source with nothing wrong is a text with the options of a dialect. -/
theorem exists_refused_or (source : Source) :
    (∃ fault, source.Refused fault) ∨
      ∃ (d : Dialect) (text : String), source = inDialect d text source.name := by
  by_cases isText : ∃ text, source.text = .text text
  · obtain ⟨text, isText⟩ := isText
    rcases Dialect.exists_optionFault_or source.escape source.tab with
      ⟨fault, wrong⟩ | ⟨d, escape, tab⟩
    · exact .inl ⟨fault, .options isText wrong⟩
    · refine .inr ⟨d, text, ?_⟩
      rw [inDialect, ← isText, ← escape, ← tab]
  · exact .inl ⟨_, .notText (not_exists.mp isText)⟩

theorem check_of_refused (h : source.Refused fault) : source.check = .error fault := by
  unfold check
  cases h with
  | notText other =>
      split
      · rename_i text isText
        exact absurd isText (other text)
      · rfl
  | options isText wrong =>
      rw [isText, Dialect.check_of_optionFault wrong]
      rfl

/-- A source is refused exactly with what is wrong with it. -/
theorem check_eq_error_iff : source.check = .error fault ↔ source.Refused fault := by
  constructor
  · intro h
    rcases source.exists_refused_or with ⟨other, wrong⟩ | ⟨d, text, isSource⟩
    · rw [check_of_refused wrong] at h
      cases h
      exact wrong
    · rw [isSource, check_inDialect] at h
      cases h
  · exact check_of_refused

end Source

end Stencil
