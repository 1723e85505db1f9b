import Stencil.Dialect
import Stencil.Zone

/-!
# The table of reactions

What a zone makes of each character behind each of the character sequences that it withholds. The
escape of a dialect belongs to no delimiter, so the rows of the table exclude each other.

## Implementation notes

The rows for an escaped opener and an escaped closer differ in the delimiter only. They are one
row with that delimiter's zone as a parameter, which need not be the zone that is read.
-/

namespace Stencil

namespace Zone

theorem isDelimiter_lead (z : Zone) : isDelimiter z.lead = true := by
  cases z <;> rfl

theorem isDelimiter_follow (z : Zone) : isDelimiter z.follow = true := by
  cases z <;> rfl

end Zone

namespace Dialect

variable (d : Dialect)

theorem ne_escape_of_isDelimiter {c : Char} (delimiter : isDelimiter c = true) :
    c ≠ d.escape := by
  rintro rfl
  rw [d.escape_free] at delimiter
  cases delimiter

theorem ne_escape_of_isBlank {c : Char} (blank : Text.isBlank c = true) : c ≠ d.escape := by
  rintro rfl
  rw [d.escape_visible] at blank
  cases blank

theorem escape_ne_lead (z : Zone) : d.escape ≠ z.lead :=
  (d.ne_escape_of_isDelimiter z.isDelimiter_lead).symm

end Dialect

/-- The characters that can be withheld in a zone: nothing, or the beginning of an escape sequence
or of the delimiter. -/
inductive Withheld (e : Char) (z : Zone) : List Char → Prop where
  | nothing : Withheld e z []
  | escape : Withheld e z [e]
  | escapedLead (y : Zone) : Withheld e z [e, y.lead]
  | lead : Withheld e z [z.lead]

namespace Zone

theorem eq_lead_iff (c : Char) : (c = '<' ∨ c = '%') ↔ ∃ y : Zone, c = y.lead := by
  constructor
  · rintro (h | h)
    · exact ⟨.static, h⟩
    · exact ⟨.slot, h⟩
  · rintro ⟨y, rfl⟩
    cases y <;> simp [lead]

variable (z : Zone) (d : Dialect)

@[simp] theorem feed_nothing_escape :
    z.feed [d.escape] [] [d.escape] = ⟨[], [d.escape], false⟩ := by
  simp [feed]

@[simp] theorem feed_nothing_lead : z.feed [d.escape] [] [z.lead] = ⟨[], [z.lead], false⟩ := by
  simp [feed]

@[simp] theorem feed_nothing_single {c : Char} (escape : c ≠ d.escape) (lead : c ≠ z.lead) :
    z.feed [d.escape] [] [c] = ⟨[c], [], false⟩ := by
  simp [feed, escape, lead]

@[simp] theorem feed_escape_escape :
    z.feed [d.escape] [d.escape] [d.escape] = ⟨[d.escape], [], false⟩ := by
  simp [feed]

@[simp] theorem feed_escape_lead (y : Zone) :
    z.feed [d.escape] [d.escape] [y.lead] = ⟨[], [d.escape, y.lead], false⟩ := by
  have free := (d.escape_ne_lead y).symm
  have lead : y.lead = '<' ∨ y.lead = '%' := (eq_lead_iff _).mpr ⟨y, rfl⟩
  simp [feed, free, lead]

@[simp] theorem feed_escape_other {c : Char} (escape : c ≠ d.escape)
    (lead : ∀ y : Zone, c ≠ y.lead) :
    z.feed [d.escape] [d.escape] [c] = ⟨[d.escape, c], [], false⟩ := by
  have none : ¬ (c = '<' ∨ c = '%') := by
    rw [eq_lead_iff]
    rintro ⟨y, h⟩
    exact lead y h
  simp [feed, escape, none]

@[simp] theorem feed_escapedLead_follow (y : Zone) :
    z.feed [d.escape] [d.escape, y.lead] [y.follow] = ⟨y.delimiter, [], false⟩ := by
  cases y <;> simp [feed, Zone.lead, follow, delimiter]

@[simp] theorem feed_escapedLead_other (y : Zone) {c : Char} (follow : c ≠ y.follow) :
    z.feed [d.escape] [d.escape, y.lead] [c] = ⟨[d.escape, y.lead, c], [], false⟩ := by
  cases y <;> simp_all [feed, Zone.lead, Zone.follow]

@[simp] theorem feed_lead_follow : z.feed [d.escape] [z.lead] [z.follow] = ⟨[], [], true⟩ := by
  simp [feed, (d.escape_ne_lead z).symm]

@[simp] theorem feed_lead_other {c : Char} (follow : c ≠ z.follow) :
    z.feed [d.escape] [z.lead] [c] = ⟨[z.lead, c], [], false⟩ := by
  simp [feed, (d.escape_ne_lead z).symm, follow]

end Zone

end Stencil
