import LatexFigures.Proofs.Drawing.Recompute
import LatexFigures.Proofs.Expr.Variables

/-! User variables between two passes over them. They are settled in a context if building them
again there changes none of them. That is so whenever none of them reads a user variable before
it is bound again.
-/

namespace LatexFigures

-----------------------------------------------------------------------------------------
-- Values of variables
-----------------------------------------------------------------------------------------

namespace Context

theorem bind_getElem? (ctx : Context) (name other : String) (value : Float)
    : (ctx.bind name value).bindings[other]?
      = if name = other then some value else ctx.bindings[other]? := by
  simp [bind, Std.ExtTreeMap.getElem?_insert]

/-- Of several values for a name the last one counts; other names keep theirs. -/
theorem bindAll_getElem? (ctx : Context) (bindings : List (String × Float)) (name : String)
    : (ctx.bindAll bindings).bindings[name]?
      = (bindings.reverse.lookup name).or ctx.bindings[name]? := by
  induction bindings generalizing ctx with
  | nil => rfl
  | cons binding bindings ih =>
      obtain ⟨key, value⟩ := binding
      rw [bindAll, List.foldl_cons, ← bindAll, ih, bind_getElem?, List.reverse_cons,
        List.lookup_append]
      by_cases same : key = name
      · simp [same]
      · have differs : (name == key) = false := by simpa using Ne.symm same
        simp [List.lookup_cons, same, differs]

theorem bindAll_getElem?_of_not_mem (ctx : Context) {bindings : List (String × Float)}
    {name : String} (absent : name ∉ bindings.map Prod.fst)
    : (ctx.bindAll bindings).bindings[name]? = ctx.bindings[name]? := by
  have unbound : bindings.reverse.lookup name = none := by
    refine List.lookup_eq_none_iff.mpr fun binding member => ?_
    rw [List.mem_reverse] at member
    exact bne_iff_ne.mpr fun same => absent (List.mem_map.mpr ⟨binding, member, same.symm⟩)
  rw [bindAll_getElem?, unbound, Option.none_or]

theorem eq_of_getElem? {ctx other : Context}
    (frame : { ctx with bindings := ∅ } = { other with bindings := ∅ })
    (values : ∀ name : String, ctx.bindings[name]? = other.bindings[name]?)
    : ctx = other := by
  have same : ctx.bindings = other.bindings := Std.ExtTreeMap.ext_getElem? values
  cases ctx
  cases other
  simp_all

end Context

-----------------------------------------------------------------------------------------
-- Settled user variables
-----------------------------------------------------------------------------------------

namespace Figure

/-- Each user variable shows what it evaluates to in the context with the values that the ones
before it show.
-/
def Settled (records : List Record) (ctx : Context) : Prop :=
  ∀ before r after,
    records = before ++ r :: after
    → r.kind = .userVariable
    → (r.rebuild (ctx.bindAll (before.filterMap Record.binding?))).1 = r

/-- Records are settled if the first one is and the others are behind it. -/
theorem settled_cons_iff {r : Record} {records : List Record} {ctx : Context}
    : Settled (r :: records) ctx
      ↔ (r.kind = .userVariable → (r.rebuild ctx).1 = r)
        ∧ Settled records (ctx.bindAll r.binding?.toList) := by
  have shift (before : List Record)
      : ctx.bindAll ((r :: before).filterMap Record.binding?)
        = (ctx.bindAll r.binding?.toList).bindAll (before.filterMap Record.binding?) := by
    rw [List.filterMap_cons]
    cases r.binding? <;> rfl
  constructor
  · intro settled
    refine ⟨fun kind => settled [] r records rfl kind, fun before other after split kind => ?_⟩
    rw [← shift]
    exact settled (r :: before) other after (by rw [split, List.cons_append]) kind
  · rintro ⟨first, rest⟩ before other after split kind
    cases before with
    | nil =>
        obtain ⟨rfl, -⟩ := List.cons.inj split
        exact first kind
    | cons head before =>
        obtain ⟨rfl, tail⟩ := List.cons.inj split
        rw [shift]
        exact rest before other after tail kind

theorem variablePass_cons_of_userVariable {r : Record} (records : List Record) (ctx : Context)
    (kind : r.kind = .userVariable)
    : variablePass (r :: records) ctx
      = ((r.rebuild ctx).1 :: (variablePass records (r.rebuild ctx).2).1,
          (variablePass records (r.rebuild ctx).2).2) := by
  simp [variablePass, rebuildKind, kind]

theorem variablePass_cons_of_other {r : Record} (records : List Record) (ctx : Context)
    (kind : r.kind ≠ .userVariable)
    : variablePass (r :: records) ctx
      = (r :: (variablePass records ctx).1, (variablePass records ctx).2) := by
  simp [variablePass, rebuildKind, kind]

/-- User variables are settled exactly if the pass over them changes no record. By induction on
the records; the context of each is the one that the unchanged ones before it leave.
-/
theorem settled_iff {records : List Record} {ctx : Context}
    : Settled records ctx ↔ (variablePass records ctx).1 = records := by
  induction records generalizing ctx with
  | nil => exact ⟨fun _ => rfl, fun _ before r after split => by simp at split⟩
  | cons r records ih =>
      rw [settled_cons_iff]
      by_cases kind : r.kind = .userVariable
      · have bound := Record.rebuild_snd_of_userVariable ctx kind
        rw [variablePass_cons_of_userVariable records ctx kind, List.cons.injEq]
        constructor
        · intro h
          obtain ⟨first, rest⟩ := h
          rw [first kind] at bound
          exact ⟨first kind, by rw [bound]; exact ih.mp rest⟩
        · intro h
          obtain ⟨first, rest⟩ := h
          rw [first] at bound
          rw [bound] at rest
          exact ⟨fun _ => first, ih.mpr rest⟩
      · have unbound : r.binding? = none := Record.binding?_of_kind kind
        rw [variablePass_cons_of_other records ctx kind, List.cons.injEq, unbound]
        exact ⟨fun settled => ⟨rfl, ih.mp settled.2⟩,
          fun same => ⟨fun here => absurd here kind, ih.mpr same.2⟩⟩

/-- The pass binds the values that the user variables show behind it. -/
theorem variablePass_snd (records : List Record) (ctx : Context)
    : (variablePass records ctx).2
      = ctx.bindAll ((variablePass records ctx).1.filterMap Record.binding?) :=
  rebuildKind_bindAll records ctx

/-- Following a context does not change what user variables show. -/
theorem filterMap_binding?_refresh (records : List Record) (ctx : Context)
    : (records.map (refresh ctx)).filterMap Record.binding?
      = records.filterMap Record.binding? := by
  have shows (r : Record) : (refresh ctx r).binding? = r.binding? := by
    by_cases follows : r.kind = .plot ∨ r.kind = .userLine
    · have other : r.kind ≠ .userVariable := by rcases follows with kind | kind <;> simp [kind]
      rw [Record.binding?_of_kind other, Record.binding?_of_kind (by simpa using other)]
    · rw [refresh_of_other ctx follows]
  induction records with
  | nil => rfl
  | cons r records ih => simp [List.filterMap_cons, shows, ih]

/-- Behind a pass user variables are settled where the pass began, whatever context the other
records follow. By induction on the records.
-/
theorem settled_variablePass (records : List Record) (ctx other : Context)
    : Settled ((variablePass records ctx).1.map (refresh other)) ctx := by
  induction records generalizing ctx with
  | nil => exact settled_iff.mpr rfl
  | cons r records ih =>
      by_cases kind : r.kind = .userVariable
      · have stays : refresh other (r.rebuild ctx).1 = (r.rebuild ctx).1 :=
          refresh_of_other other (by simp [kind])
        rw [variablePass_cons_of_userVariable records ctx kind, List.map_cons, stays,
          settled_cons_iff, ← Record.rebuild_snd_of_userVariable ctx kind]
        exact ⟨fun _ => by rw [Record.rebuild_rebuild], ih _⟩
      · have unbound : (refresh other r).binding? = none :=
          Record.binding?_of_kind (by simpa using kind)
        rw [variablePass_cons_of_other records ctx kind, List.map_cons, settled_cons_iff,
          unbound]
        exact ⟨fun here => absurd (by simpa using here) kind, ih ctx⟩

/-- If records follow a context and a pass leaves them so, it changed no user variable. -/
theorem settled_of_map_refresh {records : List Record} {ctx other : Context}
    (same : (variablePass records ctx).1.map (refresh other) = records)
    : Settled records ctx := by
  rw [← same]
  exact settled_variablePass records ctx other

end Figure

end LatexFigures
