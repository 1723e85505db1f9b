import Mathlib.Data.List.Forall2
import Stencil.Proofs.PathGrammar

/-!
# What paths and segments stand for

The meaning of a path over a row of providers, without looking anything up: the first provider that
knows the head binds it to a value, and each further name leads on to an entry of a mapping or to a
member of another value. Main statements: for every host, a path resolves exactly to the value that
it denotes, and fails exactly if it denotes none, with the name that is missing.

## Implementation notes

A mapping leads to entries only, even where it has a member of that name. The missing name is the
head if no provider knows it, else the whole path.
-/

namespace Stencil

/-- The first of some providers that knows a name binds it to a value. -/
def FirstBinds (providers : List Provider) (name : String) (v : Value) : Prop :=
  ∃ before p after, providers = before ++ p :: after ∧ p.lookup name = some v ∧
    ∀ q ∈ before, q.lookup name = none

theorem Value.isText_iff {name : String} {v : Value} : v.isText name = true ↔ v = text name := by
  cases v <;> simp [isText]

namespace Host

/-- The values that are asked for their keys: the dictionaries, and some objects. -/
inductive IsMapping (host : Host) : Value → Prop where
  | dict (entries : List (Value × Value)) : IsMapping host (.dict entries)
  | object {id : Nat} {value? : String → Option Value} :
      host.entries? id = some value? → IsMapping host (.object id)

/-- What a name selects: what a mapping has under this key, which in a dictionary is its first entry
with the key, and the member of another value. -/
inductive Selects (host : Host) : Value → String → Value → Prop where
  | entry {before after : List (Value × Value)} {name : String} {v : Value} :
      (∀ e ∈ before, e.1 ≠ .text name) →
      Selects host (.dict (before ++ (.text name, v) :: after)) name v
  | key {id : Nat} {value? : String → Option Value} {name : String} {v : Value} :
      host.entries? id = some value? → value? name = some v → Selects host (.object id) name v
  | member {u v : Value} {name : String} :
      ¬ host.IsMapping u → host.member? u name = some v → Selects host u name v

/-- Where names lead from a value, one after the other. -/
inductive Leads (host : Host) : Value → List String → Value → Prop where
  | stop (v : Value) : Leads host v [] v
  | step {u v w : Value} {name : String} {names : List String} :
      host.Selects u name v → Leads host v names w → Leads host u (name :: names) w

variable {host : Host}

theorem select?_dict_eq_some_iff {entries : List (Value × Value)} {name : String} {v : Value} :
    host.select? (.dict entries) name = some v ↔
      ∃ before after, entries = before ++ (.text name, v) :: after ∧
        ∀ e ∈ before, e.1 ≠ .text name := by
  simp only [select?, Option.map_eq_some_iff, List.find?_eq_some_iff_append]
  constructor
  · rintro ⟨⟨key, _⟩, ⟨hit, before, after, split, missed⟩, rfl⟩
    obtain rfl := Value.isText_iff.mp hit
    refine ⟨before, after, split, ?_⟩
    intro e member same
    simpa [Value.isText_iff.mpr same] using missed e member
  · rintro ⟨before, after, split, missed⟩
    refine ⟨_, ⟨Value.isText_iff.mpr rfl, before, after, split, ?_⟩, rfl⟩
    intro e member
    rw [Bool.not_eq_true', ← Bool.not_eq_true, Value.isText_iff]
    exact missed e member

/-- A value that is no mapping has members only. -/
theorem select?_of_not_isMapping {u : Value} (other : ¬ host.IsMapping u) (name : String) :
    host.select? u name = host.member? u name := by
  cases u with
  | dict entries => exact absurd (.dict entries) other
  | object id =>
      cases entries : host.entries? id with
      | some value? => exact absurd (.object entries) other
      | none => simp [select?, entries]
  | _ => rfl

theorem select?_eq_some_iff {u v : Value} {name : String} :
    host.select? u name = some v ↔ host.Selects u name v := by
  by_cases mapping : host.IsMapping u
  · cases mapping with
    | dict entries =>
        rw [select?_dict_eq_some_iff]
        constructor
        · rintro ⟨before, after, rfl, missed⟩
          exact .entry missed
        · rintro (missed | _ | ⟨other, _⟩)
          · exact ⟨_, _, rfl, missed⟩
          · exact absurd (.dict entries) other
    | object entries =>
        simp only [select?, entries]
        constructor
        · intro found
          exact .key entries found
        · rintro (_ | ⟨entries', found⟩ | ⟨other, _⟩)
          · rw [Option.some.inj (entries.symm.trans entries')]
            exact found
          · exact absurd (.object entries) other
  · rw [select?_of_not_isMapping mapping]
    constructor
    · intro found
      exact .member mapping found
    · rintro (_ | ⟨entries, _⟩ | ⟨_, found⟩)
      · exact absurd (.dict _) mapping
      · exact absurd (.object entries) mapping
      · exact found

/-- A name selects one value at most. -/
theorem Selects.unique {u v w : Value} {name : String} (h : host.Selects u name v)
    (h' : host.Selects u name w) : v = w := by
  have same := (select?_eq_some_iff.mpr h).symm.trans (select?_eq_some_iff.mpr h')
  exact Option.some.inj same

theorem leads_cons_iff {u w : Value} {name : String} {names : List String} :
    host.Leads u (name :: names) w ↔ ∃ v, host.Selects u name v ∧ host.Leads v names w := by
  constructor
  · rintro (_ | ⟨selects, leads⟩)
    exact ⟨_, selects, leads⟩
  · rintro ⟨v, selects, leads⟩
    exact .step selects leads

/-- Some name on the way selects nothing. -/
def Stuck (host : Host) (u : Value) (names : List String) : Prop :=
  ∃ before name after v,
    names = before ++ name :: after ∧ host.Leads u before v ∧ ∀ w, ¬ host.Selects v name w

theorem not_stuck_nil (u : Value) : ¬ host.Stuck u [] := by
  rintro ⟨before, name, after, v, split, _⟩
  simp at split

theorem stuck_cons_of_forall {u : Value} {name : String} (stuck : ∀ w, ¬ host.Selects u name w)
    (names : List String) : host.Stuck u (name :: names) :=
  ⟨[], name, names, u, rfl, .stop u, stuck⟩

/-- Behind a name that selects something, the other names decide. -/
theorem stuck_cons_iff {u w : Value} {name : String} (selects : host.Selects u name w)
    (names : List String) : host.Stuck u (name :: names) ↔ host.Stuck w names := by
  constructor
  · rintro ⟨before, missing, after, v, split, leads, stuck⟩
    cases before with
    | nil =>
        obtain ⟨rfl, rfl⟩ := List.cons.inj split
        cases leads
        exact absurd selects (stuck w)
    | cons first before =>
        obtain ⟨rfl, rfl⟩ := List.cons.inj split
        obtain ⟨x, selects', leads⟩ := leads_cons_iff.mp leads
        rw [← selects.unique selects'] at leads
        exact ⟨before, missing, after, v, rfl, leads, stuck⟩
  · rintro ⟨before, missing, after, v, rfl, leads, stuck⟩
    exact ⟨name :: before, missing, after, v, rfl, .step selects leads, stuck⟩

end Host

namespace Context

variable {ctx : Context} {name : String}

theorem find?_eq_some_iff {v : Value} :
    ctx.find? name = some v ↔ FirstBinds ctx.providers name v :=
  List.findSome?_eq_some_iff

theorem find?_eq_none_iff :
    ctx.find? name = none ↔ ∀ p ∈ ctx.providers, p.lookup name = none :=
  List.findSome?_eq_none_iff

end Context

namespace Path

/-- The value that a path denotes over some providers. -/
def Denotes (host : Host) (providers : List Provider) (p : Path) (v : Value) : Prop :=
  ∃ u, FirstBinds providers p.head u ∧ host.Leads u p.rest v

/-- What is missing where a path denotes nothing: its head, or the path as a whole. -/
inductive Unbound (host : Host) (providers : List Provider) (p : Path) : String → Prop where
  | head : (∀ q ∈ providers, q.lookup p.head = none) → Unbound host providers p p.head
  | part {u v : Value} {before after : List String} {name : String} :
      FirstBinds providers p.head u → p.rest = before ++ name :: after → host.Leads u before v →
      (∀ w, ¬ host.Selects v name w) → Unbound host providers p p.spelling

variable {host : Host} {spelled : String} {template : Title}

theorem walk_eq_ok_iff {u v : Value} {names : List String} :
    walk host spelled template u names = .ok v ↔ host.Leads u names v := by
  induction names generalizing u with
  | nil =>
      constructor
      · intro h
        rw [Except.ok.inj h]
        exact .stop v
      · rintro ⟨⟩
        rfl
  | cons name names ih =>
      rw [walk, Host.leads_cons_iff]
      cases h : host.select? u name with
      | none => simp [← Host.select?_eq_some_iff, h]
      | some w => simp [← Host.select?_eq_some_iff, h, ih]

/-- A walk fails exactly if it gets stuck, and always with the same fault. -/
theorem walk_eq_error_iff {u : Value} {names : List String} {fault : Fault} :
    walk host spelled template u names = .error fault ↔
      host.Stuck u names ∧ fault = .unbound spelled template := by
  induction names generalizing u with
  | nil => simp [walk, Host.not_stuck_nil]
  | cons name names ih =>
      rw [walk]
      cases h : host.select? u name with
      | none =>
          have missing : ∀ w, ¬ host.Selects u name w := by
            intro w selects
            rw [Host.select?_eq_some_iff.mpr selects] at h
            cases h
          have stuck := Host.stuck_cons_of_forall missing names
          simp only [Except.error.injEq]
          constructor
          · intro same
            exact ⟨stuck, same.symm⟩
          · rintro ⟨_, same⟩
            exact same.symm
      | some w =>
          rw [Host.stuck_cons_iff (Host.select?_eq_some_iff.mp h)]
          exact ih

variable {ctx : Context} {p : Path}

/-- A path resolves to the value that it denotes. -/
theorem resolve_eq_ok_iff {v : Value} :
    p.resolve host ctx = .ok v ↔ p.Denotes host ctx.providers v := by
  rw [resolve, Context.lookup, Denotes]
  cases h : ctx.find? p.head with
  | none => simp [← Context.find?_eq_some_iff, h]
  | some u => simp [← Context.find?_eq_some_iff, h, walk_eq_ok_iff]

/-- A path that denotes nothing fails with the name that is missing. -/
theorem resolve_eq_error_iff {fault : Fault} :
    p.resolve host ctx = .error fault ↔
      ∃ name, p.Unbound host ctx.providers name ∧ fault = .unbound name ctx.template := by
  rw [resolve, Context.lookup]
  cases h : ctx.find? p.head with
  | none =>
      simp only [Except.error.injEq]
      constructor
      · rintro rfl
        exact ⟨p.head, .head (Context.find?_eq_none_iff.mp h), rfl⟩
      · rintro ⟨name, unbound, rfl⟩
        cases unbound with
        | head _ => rfl
        | part binds _ _ _ =>
            rw [Context.find?_eq_some_iff.mpr binds] at h
            cases h
  | some u =>
      have binds := Context.find?_eq_some_iff.mp h
      simp only [walk_eq_error_iff, Host.Stuck]
      constructor
      · rintro ⟨⟨before, name, after, v, split, leads, stuck⟩, rfl⟩
        exact ⟨p.spelling, .part binds split leads stuck, rfl⟩
      · rintro ⟨name, unbound, rfl⟩
        cases unbound with
        | head free =>
            rw [Context.find?_eq_none_iff.mpr free] at h
            cases h
        | @part u' v before after missing binds' split leads stuck =>
            have same : u' = u :=
              Option.some.inj ((Context.find?_eq_some_iff.mpr binds').symm.trans h)
            rw [same] at leads
            exact ⟨⟨before, missing, after, v, split, leads, stuck⟩, rfl⟩

theorem part_of_resolve_eq_ok {v : Value} (found : p.resolve host ctx = .ok v) :
    p.part host ctx = pure (filled host v) := by
  rw [part, found]
  rfl

theorem part_of_resolve_eq_error {fault : Fault} (failed : p.resolve host ctx = .error fault) :
    p.part host ctx = Traced.fail fault := by
  rw [part, failed]
  rfl

end Path

end Stencil
