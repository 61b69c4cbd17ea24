import LatexFigures.Proofs.Document.Progress
import LatexFigures.Proofs.Drawing.DeclarationOrder
import LatexFigures.Proofs.Drawing.Lasting

/-! Plots and user lines are fresh behind an event: building any of them again, in whatever order,
changes nothing. That needs no order among the user variables. What is redrawn is what the figure
then holds.
-/

namespace LatexFigures

/-- Building the record again in the context changes neither of them. -/
def Record.FreshIn (r : Record) (ctx : Context) : Prop := r.rebuild ctx = (r, ctx)

namespace Figure

/-- Every plot and every user line is fresh in the context of the figure. -/
def Fresh (figure : Figure) : Prop :=
  ∀ r ∈ figure.plan.records,
    r.kind = .plot ∨ r.kind = .userLine → r.FreshIn figure.context

/-- Builds some records again in place, one after another, each given by its kind and its index
among the records of that kind.
-/
def rebuildAll (figure : Figure) (choices : List (CommandKind × Nat)) : Figure :=
  choices.foldl (fun figure choice => (figure.rebuildAt choice.1 choice.2).1) figure

/-- What recomputing a figure comes to: the figure behind it, and what is redrawn. -/
structure Refreshed (figure after : Figure) (redrawn : List Record) : Prop where
  fresh : after.Fresh
  /-- Plots and user lines may be built again in any order, and any number of times. -/
  stable
    : ∀ choices : List (CommandKind × Nat),
        (∀ choice ∈ choices, choice.1 = .plot ∨ choice.1 = .userLine)
        → after.rebuildAll choices = after
  /-- The records to redraw are those that the figure holds, kind by kind. -/
  redrawn
    : redrawn
      = after.plan.ofKind .userVariable
        ++ after.plan.ofKind .plot
        ++ after.plan.ofKind .userLine
  /-- The records of each kind stand in the order of their lines, as before. -/
  inOrder
    : ∀ kind,
        (after.plan.ofKind kind).map Record.recipe = (figure.plan.ofKind kind).map Record.recipe

-----------------------------------------------------------------------------------------
-- Building one record again
-----------------------------------------------------------------------------------------

/-- The record that is found is the one with this index among those of the kind, by induction on
the records.
-/
theorem rebuildAt_go_eq (kind : CommandKind) (index : Nat) (records : List Record)
    : (rebuildAt.go kind index records).map (·.2.1)
      = (records.filter (·.kind = kind))[index]? := by
  induction records generalizing index with
  | nil => rfl
  | cons r records ih =>
      unfold rebuildAt.go
      by_cases same : r.kind = kind
      · cases index with
        | zero => simp [same]
        | succ index => simpa [same, Function.comp_def] using ih index
      · simpa [same, Function.comp_def] using ih index

/-- The record that is found stands in its place among the others. -/
theorem rebuildAt_go_append {kind : CommandKind} {index : Nat} {records before behind : List Record}
    {r : Record} (found : rebuildAt.go kind index records = some (before, r, behind))
    : before ++ r :: behind = records := by
  induction records generalizing index before with
  | nil => simp [rebuildAt.go] at found
  | cons first records ih =>
      have later {index : Nat}
          (rest : (rebuildAt.go kind index records).map (fun cut => (first :: cut.1, cut.2))
            = some (before, r, behind))
          : before ++ r :: behind = first :: records := by
        obtain ⟨⟨inner, record, tail⟩, here, same⟩ := Option.map_eq_some_iff.mp rest
        obtain ⟨rfl, rfl, rfl⟩ : first :: inner = before ∧ record = r ∧ tail = behind := by
          simpa using same
        rw [List.cons_append, ih here]
      unfold rebuildAt.go at found
      split at found
      · cases index with
        | zero =>
            obtain ⟨rfl, rfl, rfl⟩ : [] = before ∧ first = r ∧ records = behind := by
              simpa using found
            rfl
        | succ index => exact later found
      · exact later found

/-- In a fresh figure, building a plot or a user line again changes nothing and shows it as it is.
-/
theorem Fresh.rebuildAt {figure : Figure} (fresh : figure.Fresh) {kind : CommandKind}
    (follows : kind = .plot ∨ kind = .userLine) (index : Nat)
    : figure.rebuildAt kind index = (figure, (figure.plan.ofKind kind)[index]?) := by
  have named := rebuildAt_go_eq kind index figure.plan.records
  unfold Figure.rebuildAt Plan.ofKind
  cases found : rebuildAt.go kind index figure.plan.records with
  | none => simpa [found] using named.symm
  | some cut =>
      obtain ⟨before, r, behind⟩ := cut
      rw [found] at named
      have member := List.mem_filter.mp (List.mem_of_getElem? named.symm)
      have sameKind : r.kind = kind := of_decide_eq_true member.2
      have unchanged : r.rebuild figure.context = (r, figure.context) :=
        fresh r member.1 (sameKind ▸ follows)
      simp only [unchanged, rebuildAt_go_append found]
      exact Prod.ext rfl named

theorem Fresh.rebuildAll {figure : Figure} (fresh : figure.Fresh)
    (choices : List (CommandKind × Nat))
    (follow : ∀ choice ∈ choices, choice.1 = .plot ∨ choice.1 = .userLine)
    : figure.rebuildAll choices = figure := by
  induction choices with
  | nil => rfl
  | cons choice choices ih =>
      have first := fresh.rebuildAt (follow choice List.mem_cons_self) choice.2
      rw [Figure.rebuildAll, List.foldl_cons, first]
      exact ih fun other member => follow other (List.mem_cons_of_mem _ member)

-----------------------------------------------------------------------------------------
-- Recomputing
-----------------------------------------------------------------------------------------

/-- The last two passes of a recomputation follow the context that it leaves. -/
theorem fresh_recompute (figure : Figure) : figure.recompute.1.Fresh := by
  rw [recompute_eq]
  intro r member follows
  obtain ⟨earlier, -, rfl⟩ := List.mem_map.mp member
  rw [refresh_kind] at follows
  rw [Record.FreshIn, refresh_of_follows _ follows, Record.rebuild_rebuild]
  exact Prod.ext rfl (earlier.rebuild_snd_of_kind _ follows)

/-- Recomputing makes fresh, and redraws what the figure then holds. -/
theorem refreshed_recompute {figure before : Figure}
    (recipes
      : before.plan.records.map Record.recipe = figure.plan.records.map Record.recipe)
    : Refreshed figure before.recompute.1 before.recompute.2 where
  fresh := fresh_recompute before
  stable := (fresh_recompute before).rebuildAll
  redrawn := by
    rw [recompute_eq]
    simp [dependents, recomputeOrder, Plan.ofKind]
  inOrder :=
    Plan.ofKind_map_congr (fun recipe => recipe.2.1.kind) (fun _ => rfl)
      ((recompute_map_recipe before).trans recipes)

/-- After any history, recomputing a figure makes its plots and user lines fresh and redraws what
it then holds; so does every event to which a reactive figure reacts.
-/
theorem perform_refreshes (figure : Figure) (history : List Event)
    : let before := figure.performAll history
      Refreshed figure before.recompute.1 before.recompute.2
      ∧ ∀ event,
          figure.mode = .reactive
          → event.Valid figure.context
          → Refreshed figure (before.perform event).1 (before.perform event).2 := by
  intro before
  have recipes := performAll_map_recipe figure history
  refine ⟨refreshed_recompute recipes, fun event reacts valid => ?_⟩
  obtain ⟨start, performed⟩ := perform_eq_recompute history reacts valid
  rw [performed]
  exact refreshed_recompute recipes

/-- A plot and a user line are fresh although the user variables read each other out of order. -/
theorem perform_refreshes_out_of_order
    : ∃ (s : Text) (segments : List Segment) (figure : Figure) (event : Event),
        s = ("\\begin\x7bpspicture\x7d(4,4)\\userline(0,0)(a,1)\x7bb\x7d\n"
          ++ "\\uservariable\x7ba\x7d(1,1)\x7bb\x7d\n"
          ++ "\\psplot\x7b0\x7d\x7b0.005\x7d\x7ba*x\x7d\n"
          ++ "\\uservariable\x7bb\x7d(1,1)\x7bx\x7d").toList
        ∧ event = .pointerMove ⟨100, 50⟩
        ∧ Document.parse {} s = .ok segments
        ∧ figure ∈ segments.filterMap (·.figure)
        ∧ ¬ figure.WellOrdered
        ∧ figure.mode = .reactive
        ∧ event.Valid figure.context
        ∧ Refreshed figure ((figure.performAll [event]).perform event).1
            ((figure.performAll [event]).perform event).2 := by
  let s : Text :=
    ("\\begin\x7bpspicture\x7d(4,4)\\userline(0,0)(a,1)\x7bb\x7d\n"
      ++ "\\uservariable\x7ba\x7d(1,1)\x7bb\x7d\n"
      ++ "\\psplot\x7b0\x7d\x7b0.005\x7d\x7ba*x\x7d\n"
      ++ "\\uservariable\x7bb\x7d(1,1)\x7bx\x7d").toList
  obtain ⟨segments, figure, parsed, member, test⟩ :=
    Document.exists_figure {} s
      (fun figure => ¬ figure.WellOrdered ∧ figure.mode = .reactive)
      (by decide +kernel)
  obtain ⟨unordered, reacts⟩ := of_decide_eq_true test
  exact ⟨s, segments, figure, .pointerMove ⟨100, 50⟩, rfl, rfl, parsed, member, unordered, reacts,
    trivial, (perform_refreshes figure _).2 _ reacts trivial⟩

end Figure

end LatexFigures
