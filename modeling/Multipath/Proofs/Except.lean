/-! What becomes of a checked computation whose result is mapped, and what two of them have in
common. -/
namespace Multipath

/-- Two checked computations fail alike, or have results that are related. -/
inductive Alike {ε α β : Type} (R : α → β → Prop) : Except ε α → Except ε β → Prop where
  | error (e : ε) : Alike R (.error e) (.error e)
  | ok {a : α} {b : β} (related : R a b) : Alike R (.ok a) (.ok b)

theorem Alike.cases {ε α β : Type} {R : α → β → Prop} {one : Except ε α} {other : Except ε β}
    (alike : Alike R one other) :
    (∃ e, one = .error e ∧ other = .error e) ∨
      ∃ a b, one = .ok a ∧ other = .ok b ∧ R a b := by
  cases alike with
  | error e => exact .inl ⟨e, rfl, rfl⟩
  | ok related => exact .inr ⟨_, _, rfl, rfl, related⟩

variable {ε ε' α β : Type} {value : Except ε α} {f : α → β}

theorem exists_of_map_eq_ok {result : β} (fine : value.map f = .ok result) :
    ∃ a, value = .ok a ∧ f a = result := by
  cases value with
  | error error => contradiction
  | ok a =>
    cases fine
    exact ⟨a, rfl, rfl⟩

theorem isOk_map_iff : (∃ result, value.map f = .ok result) ↔ ∃ a, value = .ok a := by
  constructor
  · rintro ⟨result, fine⟩
    obtain ⟨a, isOk, -⟩ := exists_of_map_eq_ok fine
    exact ⟨a, isOk⟩
  · rintro ⟨a, rfl⟩
    exact ⟨f a, rfl⟩

theorem map_eq_error_iff {e : ε} : value.map f = .error e ↔ value = .error e := by
  cases value <;> simp [Except.map]

theorem eq_ok_of_toOption {a : α} (isSome : value.toOption = some a) : value = .ok a := by
  cases value with
  | error error => contradiction
  | ok b => exact congrArg Except.ok (Option.some.inj isSome)

theorem mapError_map (value : Except ε α) (f : α → β) (g : ε → ε') :
    (value.map f).mapError g = (value.mapError g).map f := by
  cases value <;> rfl

end Multipath
