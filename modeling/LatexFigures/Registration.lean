import LatexFigures.Environment.Kind
import LatexFigures.Pattern.Reader

/-! Registrations. What is registered under a name is found by patterns, and none of them may be
refused. A registration gives its result together with what is registered afterwards, so that
both can be told also of one that fails.
-/

namespace LatexFigures

/-- Reads a pattern of the rule (rule). -/
def Pattern.compile (rule : String) (s : Text) : Except RegistryError Pattern :=
  match Pattern.read? s with
  | some pattern => .ok pattern
  | none => .error (.invalidPattern rule)

/-- The pattern of what the command (command) writes about the environment (name). -/
def markPattern (command name : String) : Text :=
  "\\\\".toList ++ command.toList ++ "\\\x7b".toList ++ Pattern.escape name.toList
    ++ "\\\x7d".toList

/-- A change of what is registered, which may be refused on the way. -/
abbrev Registration (σ : Type) := ExceptT RegistryError (StateM σ)

namespace Registration

variable {σ ω : Type}

/-- The result of a registration, and what is registered afterwards. -/
def run (registration : Registration σ Unit) (s : σ) : Except RegistryError Unit × σ :=
  StateT.run (ExceptT.run registration) s

/-- A registration in one part of something larger. -/
def within (part : ω → σ) (put : ω → σ → ω) (registration : Registration σ Unit)
    : Registration ω Unit :=
  ExceptT.mk <| modifyGet fun whole => Prod.map id (put whole) (registration.run (part whole))

theorem run_within (part : ω → σ) (put : ω → σ → ω) (registration : Registration σ Unit)
    (whole : ω)
    : (registration.within part put).run whole
      = Prod.map id (put whole) (registration.run (part whole)) :=
  rfl

/-- A registration goes on with what a check gives; if the check fails, it ends there. -/
theorem run_check {α : Type} (check : Except RegistryError α) (next : α → Registration σ Unit)
    (s : σ)
    : run (do next (← check)) s
      = match check with
        | .ok a => (next a).run s
        | .error e => (.error e, s) := by
  cases check <;> rfl

/-- A registration behind another one is made if that has succeeded. -/
theorem run_then (first rest : Registration σ Unit) (s : σ)
    : run (do first; rest) s
      = match first.run s with
        | (.ok (), next) => rest.run next
        | (.error e, next) => (.error e, next) := by
  simp only [run, ExceptT.run_bind, StateT.run_bind]
  generalize StateT.run (ExceptT.run first) s = outcome
  obtain ⟨_ | _, next⟩ := outcome <;> rfl

end Registration

end LatexFigures
