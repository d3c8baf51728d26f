/-!
# Results and refusals

What a computation that may be refused has done before it gives its result.
-/

namespace RegisterMachine

theorem bind_eq_ok_iff
    {ε α β : Type} {first : Except ε α} {next : α → Except ε β} {result : β} :
    (first >>= next) = .ok result ↔
      ∃ value, first = .ok value ∧ next value = .ok result := by
  cases first with
  | error error =>
      constructor
      · nofun
      · rintro ⟨_, ⟨⟩, _⟩
  | ok value =>
      constructor
      · intro rest
        exact ⟨value, rfl, rest⟩
      · rintro ⟨_, ⟨⟩, rest⟩
        exact rest

theorem mapError_eq_ok_iff
    {ε ε' α : Type} {first : Except ε α} {change : ε → ε'} {value : α} :
    first.mapError change = .ok value ↔ first = .ok value := by
  cases first with
  | error error => constructor <;> nofun
  | ok found =>
      constructor
      · rintro ⟨⟩
        rfl
      · rintro ⟨⟩
        rfl

end RegisterMachine
