import Mathlib.Data.List.Forall2
import Stencil.Traced

/-!
# Traced computations in a row

A traced computation that is done for each element of a list stops at the first fault. Main
statements: its events are those of the elements up to there, and its outcome is that fault, or all
values in order if there is none.
-/

namespace Stencil.Traced

variable {α β : Type}

/-- A computation that ends in a value goes on with it. -/
theorem bind_of_ok {x : Traced α} {a : α} (h : x.outcome = .ok a) (f : α → Traced β) :
    x >>= f = ⟨x.events ++ (f a).events, (f a).outcome⟩ := by
  obtain ⟨events, outcome⟩ := x
  obtain rfl : outcome = .ok a := h
  rfl

/-- A computation that ends in a fault goes no further. -/
theorem bind_of_error {x : Traced α} {fault : Fault} (h : x.outcome = .error fault)
    (f : α → Traced β) : x >>= f = ⟨x.events, .error fault⟩ := by
  obtain ⟨events, outcome⟩ := x
  obtain rfl : outcome = .error fault := h
  rfl

/-- The outcome of two computations in a row, whatever their events are. -/
theorem bind_outcome (x : Traced α) (f : α → Traced β) :
    (x >>= f).outcome = x.outcome.bind fun a => (f a).outcome := by
  cases outcome : x.outcome with
  | error fault => rw [bind_of_error outcome, Except.bind]
  | ok a => rw [bind_of_ok outcome, Except.bind]

/-- A computation without a value ends in a fault. -/
theorem exists_fault {x : Traced α} (h : ∀ a, x.outcome ≠ .ok a) :
    ∃ fault, x.outcome = .error fault := by
  cases outcome : x.outcome with
  | error fault => exact ⟨fault, rfl⟩
  | ok a => exact absurd outcome (h a)

variable {f : α → Traced β}

/-- All values are collected if no element fails. -/
theorem mapM_of_ok {as : List α} {bs : List β}
    (h : List.Forall₂ (fun a b => (f a).outcome = .ok b) as bs) :
    as.mapM f = ⟨as.flatMap fun a => (f a).events, .ok bs⟩ := by
  induction h with
  | nil => rfl
  | @cons a b as bs here _ ih =>
      rw [List.mapM_cons, bind_of_ok here, ih]
      simp

/-- The first element that fails ends the row. -/
theorem mapM_of_error {before : List α} {bs : List β} {a : α} {fault : Fault}
    (h : List.Forall₂ (fun a b => (f a).outcome = .ok b) before bs)
    (fails : (f a).outcome = .error fault) (after : List α) :
    (before ++ a :: after).mapM f =
      ⟨(before.flatMap fun a => (f a).events) ++ (f a).events, .error fault⟩ := by
  rw [List.mapM_append, mapM_of_ok h, List.mapM_cons, bind_of_error fails]
  rfl

/-- A row does the same if each of its elements does. -/
theorem mapM_congr {g : α → Traced β} {as : List α} (same : ∀ a ∈ as, f a = g a) :
    as.mapM f = as.mapM g := by
  induction as with
  | nil => rfl
  | cons a as ih =>
      obtain ⟨here, later⟩ := List.forall_mem_cons.mp same
      rw [List.mapM_cons, List.mapM_cons, here, ih later]

end Stencil.Traced

namespace Stencil

section FirstExceptions

variable {α β : Type}

/-- Either all elements of a list have a property, or there is a first one that has not. -/
theorem forall_or_first (P : α → Prop) (as : List α) :
    (∀ a ∈ as, P a) ∨
      ∃ before a after, as = before ++ a :: after ∧ (∀ b ∈ before, P b) ∧ ¬ P a := by
  induction as with
  | nil => exact .inl nofun
  | cons a as ih =>
      by_cases here : P a
      · rcases ih with all | ⟨before, first, after, rfl, front, exception⟩
        · exact .inl (List.forall_mem_cons.mpr ⟨here, all⟩)
        · exact .inr ⟨a :: before, first, after, rfl, List.forall_mem_cons.mpr ⟨here, front⟩,
            exception⟩
      · exact .inr ⟨[], a, as, rfl, nofun, here⟩

/-- Elements that are all related to something are related to a list. -/
theorem exists_forall₂ {R : α → β → Prop} {as : List α} (h : ∀ a ∈ as, ∃ b, R a b) :
    ∃ bs, List.Forall₂ R as bs := by
  induction as with
  | nil => exact ⟨[], .nil⟩
  | cons a as ih =>
      obtain ⟨⟨b, here⟩, later⟩ := List.forall_mem_cons.mp h
      obtain ⟨bs, all⟩ := ih later
      exact ⟨b :: bs, .cons here all⟩

/-- Either all elements of a list are related to something, or there is a first one that is not. -/
theorem forall₂_or_first (R : α → β → Prop) (as : List α) :
    (∃ bs, List.Forall₂ R as bs) ∨
      ∃ before a after bs, as = before ++ a :: after ∧ List.Forall₂ R before bs ∧
        ∀ b, ¬ R a b := by
  rcases forall_or_first (fun a => ∃ b, R a b) as with
    all | ⟨before, a, after, split, related, unrelated⟩
  · exact .inl (exists_forall₂ all)
  · obtain ⟨bs, front⟩ := exists_forall₂ related
    exact .inr ⟨before, a, after, bs, split, front, not_exists.mp unrelated⟩

end FirstExceptions

end Stencil
