import Mathlib.Logic.Function.Basic

/-! Computations that stop at the first of several errors. Which errors they could report is listed
in order; they report the first one, and give a value if there are none.
-/

namespace LatexFigures

variable {ε α β : Type}

/-- The result is the first of these errors, or a value if there are none. -/
def ReportsFirst (errors : List ε) (result : Except ε α) : Prop :=
  match errors with
  | [] => ∃ value, result = .ok value
  | error :: _ => result = .error error

namespace ReportsFirst

variable {errors more : List ε} {result : Except ε α} {next : α → Except ε β}

theorem ok (value : α) : ReportsFirst [] (.ok value : Except ε α) := ⟨value, rfl⟩

theorem error (error : ε) (errors : List ε)
    : ReportsFirst (error :: errors) (.error error : Except ε α) := rfl

/-- The errors of a second step count only where the first one has given a value. -/
theorem bind (first : ReportsFirst errors result)
    (second : ∀ value, result = .ok value → ReportsFirst more (next value))
    : ReportsFirst (errors ++ more) (result >>= next) := by
  cases errors with
  | nil =>
      obtain ⟨value, rfl⟩ := first
      exact second value rfl
  | cons error errors =>
      rw [show result = .error error from first]
      rfl

/-- A step that cannot fail adds no errors. -/
theorem bind_ok {f : α → β} (first : ReportsFirst errors result)
    : ReportsFirst errors (result >>= fun value => .ok (f value)) := by
  have all : ReportsFirst (errors ++ []) (result >>= fun value => .ok (f value)) :=
    first.bind fun value _ => ok (f value)
  rwa [List.append_nil] at all

/-- Errors that are only wrapped are reported as they are. -/
theorem of_mapError {ε' : Type} {wrap : ε → ε'} (injective : Function.Injective wrap)
    (reports : ReportsFirst (errors.map wrap) (result.mapError wrap))
    : ReportsFirst errors result := by
  cases errors with
  | nil =>
      obtain ⟨value, done⟩ := reports
      cases result with
      | ok value => exact ok value
      | error => cases done
  | cons error errors =>
      cases result with
      | ok => cases reports
      | error other =>
          have same : Except.error (wrap other) = (.error (wrap error) : Except ε' α) := reports
          exact congrArg Except.error (injective (Except.error.inj same))

theorem mem_of_eq_error {error : ε} (reports : ReportsFirst errors result)
    (failed : result = .error error)
    : error ∈ errors := by
  cases errors with
  | nil =>
      obtain ⟨value, rfl⟩ := reports
      cases failed
  | cons first errors =>
      cases failed.symm.trans reports
      exact List.mem_cons_self

theorem exists_error_iff (reports : ReportsFirst errors result)
    : (∃ error, result = .error error) ↔ ∃ error, error ∈ errors := by
  constructor
  · intro h
    obtain ⟨error, failed⟩ := h
    exact ⟨error, reports.mem_of_eq_error failed⟩
  · intro h
    obtain ⟨error, member⟩ := h
    cases errors with
    | nil => nomatch member
    | cons first errors => exact ⟨first, reports⟩

end ReportsFirst

end LatexFigures
