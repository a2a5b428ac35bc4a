/-!
# Results that may fail

What is known of the parts of a computation from its result: a computation in
two stages succeeds if both do, and fails with the fault of one of them.
-/

namespace VuePrecompiler

variable {ε α β : Type}

theorem of_bind_eq_ok {first : Except ε α} {next : α → Except ε β} {result : β}
    (done : first >>= next = .ok result) :
    ∃ value, first = .ok value ∧ next value = .ok result := by
  cases first with
  | error fault => contradiction
  | ok value => exact ⟨value, rfl, done⟩

theorem of_bind_eq_error {first : Except ε α} {next : α → Except ε β} {fault : ε}
    (failed : first >>= next = .error fault) :
    first = .error fault ∨ ∃ value, first = .ok value ∧ next value = .error fault := by
  cases first with
  | error other =>
      cases failed
      exact .inl rfl
  | ok value => exact .inr ⟨value, rfl, failed⟩

theorem of_map_eq_ok {result : Except ε α} {f : α → β} {value : β}
    (done : result.map f = .ok value) :
    ∃ given, result = .ok given ∧ value = f given := by
  cases result with
  | error fault => contradiction
  | ok given => exact ⟨given, rfl, (Except.ok.inj done).symm⟩

theorem of_map_eq_error {result : Except ε α} {f : α → β} {fault : ε}
    (failed : result.map f = .error fault) : result = .error fault := by
  cases result with
  | ok value => contradiction
  | error other =>
      cases failed
      rfl

theorem of_mapError_eq_ok {ε' : Type} {result : Except ε α} {f : ε → ε'} {value : α}
    (done : result.mapError f = .ok value) : result = .ok value := by
  cases result with
  | error fault => contradiction
  | ok given => exact congrArg Except.ok (Except.ok.inj done)

theorem exists_of_isOk {result : Except ε α} (isOk : result.isOk = true) :
    ∃ value, result = .ok value := by
  cases result with
  | error fault => contradiction
  | ok value => exact ⟨value, rfl⟩

end VuePrecompiler
