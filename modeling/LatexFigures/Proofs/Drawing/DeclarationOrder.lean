import LatexFigures.Proofs.Drawing.UserVariables

/-! User variables that read each other in the order of their declaration. A pass over them
forgets all values that they had before: it depends on the pointer, on the corners of the canvas
and on the values of other names alone.
-/

namespace LatexFigures

/-- The names that a user variable reads: those of its anchor and those of its expression, where
(x) and (y) are local.
-/
def Command.UserVariable.reads (c : Command.UserVariable) : List String :=
  Expr.namesIn c.anchor.x
    ++ Expr.namesIn c.anchor.y
    ++ (Expr.namesIn c.expression).filter (· ∉ ["x", "y"])

/-- The user variable that a record builds, if it does. -/
def Record.userVariable? (r : Record) : Option Command.UserVariable :=
  match r.command with
  | .userVariable c => some c
  | _ => none

theorem Record.kind_eq_userVariable_iff {r : Record}
    : r.kind = .userVariable ↔ ∃ c, r.userVariable? = some c := by
  cases r with
  | mk source command settings geometry =>
      cases command <;> simp [Record.kind, Command.kind, Record.userVariable?]

/-- Each user variable reads only those user variables that are declared before it. -/
def Command.UserVariable.WellOrdered (declared : List Command.UserVariable) : Prop :=
  ∀ before c after,
    declared = before ++ c :: after
    → ∀ name ∈ c.reads, name ∈ declared.map (·.name) → name ∈ before.map (·.name)

/-- It suffices to look at each place of the declarations. -/
theorem Command.UserVariable.wellOrdered_iff {declared : List Command.UserVariable}
    : WellOrdered declared
      ↔ ∀ i (inside : i < declared.length),
          ∀ name ∈ declared[i].reads,
            name ∈ declared.map (·.name) → name ∈ (declared.take i).map (·.name) := by
  constructor
  · intro ordered i inside
    have split : declared = declared.take i ++ declared[i] :: declared.drop (i + 1) := by simp
    exact ordered _ _ _ split
  · rintro ordered before c after rfl
    simpa using ordered before.length (by simp)

instance (declared : List Command.UserVariable)
    : Decidable (Command.UserVariable.WellOrdered declared) :=
  decidable_of_iff _ Command.UserVariable.wellOrdered_iff.symm

/-- The contexts agree in all that user variables look at, with the values of these names. -/
structure Context.AgreeOn (names : String → Prop) (ctx other : Context) : Prop where
  lowerLeft : ctx.lowerLeft = other.lowerLeft
  upperRight : ctx.upperRight = other.upperRight
  pointer : ctx.pointer = other.pointer
  values : ∀ name, names name → ctx.bindings[name]? = other.bindings[name]?

variable {names : String → Prop} {ctx other : Context}

theorem Context.AgreeOn.mono {fewer : String → Prop} (agree : ctx.AgreeOn names other)
    (known : ∀ name, fewer name → names name)
    : ctx.AgreeOn fewer other :=
  ⟨agree.lowerLeft, agree.upperRight, agree.pointer, fun name few =>
    agree.values name (known name few)⟩

theorem Context.AgreeOn.bind (agree : ctx.AgreeOn names other) (name : String) (value : Float)
    : (ctx.bind name value).AgreeOn (fun n => names n ∨ n = name) (other.bind name value) where
  lowerLeft := agree.lowerLeft
  upperRight := agree.upperRight
  pointer := agree.pointer
  values := by
    intro n known
    rw [bind_getElem?, bind_getElem?]
    by_cases same : name = n
    · simp [same]
    · rcases known with known | here
      · simp [same, agree.values n known]
      · exact absurd here.symm same

/-- A text that reads names of agreement alone, locals apart, has the same value. -/
theorem Context.AgreeOn.evalWith (agree : ctx.AgreeOn names other) {source : Text}
    {locals : List (String × Float)}
    (known : ∀ name ∈ Expr.namesIn source, name ∉ locals.map Prod.fst → names name)
    : ctx.evalWith source locals = other.evalWith source locals :=
  Expr.evaluateOr_congr 0 fun name member =>
    Scope.lookup?_congr fun absent => agree.values name (known name member absent)

/-- A user variable that reads names of agreement alone shows the same under the same settings.
-/
theorem Context.AgreeOn.geometry (agree : ctx.AgreeOn names other)
    (settings : ctx.settings = other.settings) {c : Command.UserVariable}
    (known : ∀ name ∈ c.reads, names name)
    : c.geometry ctx = c.geometry other := by
  have frame : ctx.frame = other.frame := by
    simp only [Context.frame, agree.lowerLeft, agree.upperRight, settings]
  simp only [Command.UserVariable.reads, List.mem_append, List.mem_filter, or_imp,
    forall_and, and_imp] at known
  obtain ⟨⟨anchorX, anchorY⟩, expression⟩ := known
  have x : ctx.evalWith c.anchor.x [] = other.evalWith c.anchor.x [] :=
    agree.evalWith fun name member _ => anchorX name member
  have y : ctx.evalWith c.anchor.y [] = other.evalWith c.anchor.y [] :=
    agree.evalWith fun name member _ => anchorY name member
  have value (a b : Float)
      : ctx.evalWith c.expression [("x", a), ("y", b)]
        = other.evalWith c.expression [("x", a), ("y", b)] :=
    agree.evalWith fun name member absent => expression name member (by simpa using absent)
  simp only [Command.UserVariable.geometry, Pair.resolve, Context.coords, Context.eval,
    Context.point, Context.pointInv, x, y, frame, agree.pointer, value]

/-- A record of a user variable that reads names of agreement alone is built again to the same
record, and both contexts take over its value.
-/
theorem Context.AgreeOn.rebuild (agree : ctx.AgreeOn names other) {r : Record}
    {c : Command.UserVariable} (builds : r.userVariable? = some c)
    (known : ∀ name ∈ c.reads, names name)
    : (r.rebuild ctx).1 = (r.rebuild other).1
      ∧ (r.rebuild ctx).2.AgreeOn (fun name => names name ∨ name = c.name)
          (r.rebuild other).2 := by
  cases r with
  | mk source command settings geometry =>
      cases command with
      | userVariable d =>
          obtain rfl : d = c := Option.some.inj builds
          have settled : ({ ctx with settings } : Context).AgreeOn names { other with settings } :=
            ⟨agree.lowerLeft, agree.upperRight, agree.pointer, agree.values⟩
          have same : d.geometry { ctx with settings } = d.geometry { other with settings } :=
            settled.geometry rfl known
          refine ⟨?_, ?_⟩
          · simp only [Record.rebuild, Command.build, Command.geometry, same]
          · have bound := agree.bind d.name (d.geometry { other with settings }).value
            simp only [Record.rebuild, Command.build, Command.geometry, Context.absorb, same]
            exact ⟨bound.lowerLeft, bound.upperRight, bound.pointer, bound.values⟩
      | _ => simp [Record.userVariable?] at builds

namespace Figure

open Command (UserVariable)

/-- A pass over well-ordered user variables shows the same in two contexts that agree on all
other names, and makes them agree on all names. By induction on the records; behind some of them
the contexts agree on what those bind, which is all that the next one may read.
-/
theorem variablePass_congr {records : List Record} {all : List UserVariable}
    (ordered : UserVariable.WellOrdered all) (done : List UserVariable)
    (whole : all = done ++ records.filterMap Record.userVariable?)
    (agree : ctx.AgreeOn
      (fun name => name ∉ all.map (·.name) ∨ name ∈ done.map (·.name)) other)
    : (variablePass records ctx).1 = (variablePass records other).1
      ∧ (variablePass records ctx).2.AgreeOn (fun _ => True) (variablePass records other).2 := by
  induction records generalizing done ctx other with
  | nil =>
      refine ⟨rfl, agree.lowerLeft, agree.upperRight, agree.pointer, fun name _ => ?_⟩
      obtain rfl : all = done := by simpa using whole
      exact agree.values name (Decidable.em _).symm
  | cons r records ih =>
      cases builds : r.userVariable? with
      | none =>
          have kind : r.kind ≠ .userVariable := by
            simp [Record.kind_eq_userVariable_iff, builds]
          rw [List.filterMap_cons_none builds] at whole
          obtain ⟨same, behind⟩ := ih done whole agree
          rw [variablePass_cons_of_other records ctx kind,
            variablePass_cons_of_other records other kind, same]
          exact ⟨rfl, behind⟩
      | some c =>
          have kind : r.kind = .userVariable := Record.kind_eq_userVariable_iff.mpr ⟨c, builds⟩
          rw [List.filterMap_cons_some builds] at whole
          have known : ∀ name ∈ c.reads,
              name ∉ all.map (·.name) ∨ name ∈ done.map (·.name) := fun name member =>
            (Decidable.em (name ∈ all.map (·.name))).symm.imp_right
              (ordered done c _ whole name member)
          obtain ⟨first, after⟩ := agree.rebuild builds known
          obtain ⟨rest, behind⟩ := ih (done ++ [c]) (by simpa using whole)
            (after.mono fun name here => by simpa [or_assoc] using here)
          rw [variablePass_cons_of_userVariable records ctx kind,
            variablePass_cons_of_userVariable records other kind, first, rest]
          exact ⟨rfl, behind⟩

theorem userVariables_congr {records more : List Record}
    (recipes : records.map Record.recipe = more.map Record.recipe)
    : records.filterMap Record.userVariable? = more.filterMap Record.userVariable? := by
  have all (records : List Record)
      : records.filterMap Record.userVariable?
        = (records.map Record.recipe).filterMap fun recipe =>
            match recipe.2.1 with
            | .userVariable c => some c
            | _ => none := by
    rw [List.filterMap_map]
    rfl
  rw [all, all, recipes]

theorem bound_variablePass (records : List Record) (ctx : Context)
    : ((variablePass records ctx).1.filterMap Record.binding?).map Prod.fst
      = (records.filterMap Record.userVariable?).map (·.name) := by
  induction records generalizing ctx with
  | nil => rfl
  | cons r records ih =>
      cases builds : r.userVariable? with
      | none =>
          have kind : r.kind ≠ .userVariable := by
            simp [Record.kind_eq_userVariable_iff, builds]
          rw [variablePass_cons_of_other records ctx kind, List.filterMap_cons_none builds,
            List.filterMap_cons_none (Record.binding?_of_kind kind), ih]
      | some c =>
          have kind : r.kind = .userVariable := Record.kind_eq_userVariable_iff.mpr ⟨c, builds⟩
          have binds : ∃ value, (r.rebuild ctx).1.binding? = some (c.name, value) := by
            cases r with
            | mk source command settings geometry =>
                cases command with
                | userVariable d =>
                    obtain rfl : d = c := Option.some.inj builds
                    exact ⟨_, rfl⟩
                | _ => simp [Record.userVariable?] at builds
          obtain ⟨value, bound⟩ := binds
          rw [variablePass_cons_of_userVariable records ctx kind,
            List.filterMap_cons_some builds, List.filterMap_cons_some bound, List.map_cons,
            List.map_cons, ih]

end Figure

/-- The user variables of a figure read each other in the order of their declaration. -/
def Figure.WellOrdered (figure : Figure) : Prop :=
  Command.UserVariable.WellOrdered (figure.plan.records.filterMap Record.userVariable?)

instance (figure : Figure) : Decidable figure.WellOrdered :=
  inferInstanceAs (Decidable (Command.UserVariable.WellOrdered _))

end LatexFigures
