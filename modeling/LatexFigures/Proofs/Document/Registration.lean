import LatexFigures.Document.Reading
import LatexFigures.Proofs.Environment.Names
import LatexFigures.Proofs.Environment.TableOrder

/-! Environments may be registered in any order. Names are kept apart, so that the same delimiters
come to stand in the table, and documents are read and expanded alike.
-/

namespace LatexFigures

namespace Registry

/-- Registers environments one after another, each with whether it is literal. -/
def addEnvironments (environments : List (String × Bool)) : Registration Registry Unit :=
  forM environments fun environment => addEnvironment environment.1 environment.2

-----------------------------------------------------------------------------------------
-- Registered delimiters
-----------------------------------------------------------------------------------------

variable (registry : Registry) {name : String} {environments : List (String × Bool)}

/-- A name that has delimiters is registered; they take the place of any others of the name. -/
theorem addEnvironment_eq_ok {literal : Bool}
    (valid : (Delimiter.ofKind (.named name literal)).isOk = true)
    : ∃ table : DelimiterTable,
        (addEnvironment name literal).run registry
          = (.ok (), { registry with delimiters := table })
        ∧ ∀ d,
            d ∈ table.entries
            ↔ d.kind = .named name literal
              ∨ (d ∈ registry.delimiters.entries ∧ d.kind.tag ≠ name) := by
  cases made : Delimiter.ofKind (.named name literal) with
  | error e => rw [made] at valid; cases valid
  | ok new =>
      have kind : new.kind = .named name literal := Delimiter.kind_eq_of_ofKind made
      refine ⟨registry.delimiters.insert new, ?_, fun d => ?_⟩
      · rw [addEnvironment, Registration.run_within, DelimiterTable.register,
          Registration.run_check, made]
        rfl
      · have same : d = new ↔ d.kind = .named name literal := by
          rw [← kind]
          cases d
          cases new
          simp
        rw [DelimiterTable.insert, Ordered.mem_put _ registry.delimiters.distinct, same, kind,
          EnvironmentKind.named_tag]

/-- Names that have delimiters are all registered, if no two are the same, and the other delimiters
stay. By induction on the names.
-/
theorem addEnvironments_eq_ok
    (valid : ∀ e ∈ environments, (Delimiter.ofKind (.named e.1 e.2)).isOk = true)
    (distinct : (environments.map (·.1)).Nodup)
    : ∃ table : DelimiterTable,
        (addEnvironments environments).run registry
          = (.ok (), { registry with delimiters := table })
        ∧ ∀ d,
            d ∈ table.entries
            ↔ (∃ e ∈ environments, d.kind = .named e.1 e.2)
              ∨ (d ∈ registry.delimiters.entries ∧ ∀ e ∈ environments, d.kind.tag ≠ e.1) := by
  induction environments generalizing registry with
  | nil => exact ⟨registry.delimiters, rfl, fun d => by simp⟩
  | cons first environments ih =>
      obtain ⟨firstValid, valid⟩ := List.forall_mem_cons.mp valid
      obtain ⟨once, distinct⟩ := List.nodup_cons.mp distinct
      obtain ⟨table, added, entries⟩ := addEnvironment_eq_ok registry firstValid
      obtain ⟨last, more, all⟩ := ih { registry with delimiters := table } valid distinct
      refine ⟨last, ?_, fun d => ?_⟩
      · rw [addEnvironments, List.forM_cons, Registration.run_then, added]
        exact more
      · -- the first name is none of the later ones, so that its delimiters stay
        have stays : d.kind = .named first.1 first.2 → ∀ e ∈ environments, d.kind.tag ≠ e.1 := by
          intro here e member same
          rw [here, EnvironmentKind.named_tag] at same
          exact once (List.mem_map.mpr ⟨e, member, same.symm⟩)
        simp only [all, entries, List.exists_mem_cons_iff, List.forall_mem_cons]
        constructor
        · rintro (later | ⟨here | ⟨member, other⟩, absent⟩)
          · exact .inl (.inr later)
          · exact .inl (.inl here)
          · exact .inr ⟨member, other, absent⟩
        · rintro ((here | later) | ⟨member, other, absent⟩)
          · exact .inr ⟨.inl here, stays here⟩
          · exact .inl later
          · exact .inr ⟨.inr ⟨member, other⟩, absent⟩

-----------------------------------------------------------------------------------------
-- Two orders
-----------------------------------------------------------------------------------------

theorem sameEntries_of_perm {reordered : List (String × Bool)}
    (same : environments.Perm reordered) (distinct : (environments.map (·.1)).Nodup)
    (valid : ∀ e ∈ environments, (Delimiter.ofKind (.named e.1 e.2)).isOk = true)
    : ∃ table other : DelimiterTable,
        (addEnvironments environments).run registry
          = (.ok (), { registry with delimiters := table })
        ∧ (addEnvironments reordered).run registry
          = (.ok (), { registry with delimiters := other })
        ∧ table.SameEntries other := by
  have distinct' : (reordered.map (·.1)).Nodup := (same.map (·.1)).nodup_iff.mp distinct
  obtain ⟨table, added, entries⟩ := addEnvironments_eq_ok registry valid distinct
  obtain ⟨other, added', entries'⟩ :=
    addEnvironments_eq_ok registry (fun e member => valid e (same.mem_iff.mpr member)) distinct'
  refine ⟨table, other, added, added', fun d => ?_⟩
  simp only [entries, entries', same.mem_iff]

end Registry

namespace Document

variable {table other : DelimiterTable}

theorem itemsFrom_congr (same : table.SameEntries other) (current : EnvironmentKind)
    (lines : List Text.Line)
    : itemsFrom table current lines = itemsFrom other current lines := by
  induction lines generalizing current with
  | nil => rfl
  | cons line lines ih => simp only [itemsFrom, same.scan_eq, ih]

theorem expandFrom_congr (same : table.SameEntries other) (rules : TextRules)
    (current : EnvironmentKind) (lines : List Text.Line)
    : expandFrom ⟨table, rules⟩ current lines = expandFrom ⟨other, rules⟩ current lines := by
  induction lines generalizing current with
  | nil => rfl
  | cons line lines ih => simp only [expandFrom, same.scan_eq, ih]

/-- Environments with distinct names can be registered in any order. Every document is then read
with the same outcome, segments or error, and expanded to the same lines.
-/
theorem read_registration_order (registry : Registry)
    {environments reordered : List (String × Bool)} (same : environments.Perm reordered)
    (distinct : (environments.map (·.1)).Nodup)
    (valid : ∀ e ∈ environments, (Delimiter.ofKind (.named e.1 e.2)).isOk = true)
    : ∃ first second,
        (Registry.addEnvironments environments).run registry = (.ok (), first)
        ∧ (Registry.addEnvironments reordered).run registry = (.ok (), second)
        ∧ ∀ s, parse first s = parse second s ∧ expand first s = expand second s := by
  obtain ⟨table, other, added, added', entries⟩ :=
    registry.sameEntries_of_perm same distinct valid
  refine ⟨_, _, added, added', fun s => ⟨?_, expandFrom_congr entries _ _ _⟩⟩
  simp only [parse, read, items, itemsFrom_congr entries]

/-- A built-in name, the name of running text, one in the form of a pattern and one that begins
another, in two orders that leave different tables.
-/
theorem read_registration_order_reversed
    : ∃ (environments : List (String × Bool)) (first second : Registry),
        environments = [("a.*", true), ("verbatim", false), ("math", false), ("a", false)]
        ∧ (Registry.addEnvironments environments).run {} = (.ok (), first)
        ∧ (Registry.addEnvironments environments.reverse).run {} = (.ok (), second)
        ∧ first.delimiters.kinds ≠ second.delimiters.kinds
        ∧ ∀ s, parse first s = parse second s ∧ expand first s = expand second s := by
  let environments : List (String × Bool) :=
    [("a.*", true), ("verbatim", false), ("math", false), ("a", false)]
  obtain ⟨first, second, added, added', alike⟩ :=
    read_registration_order {} (environments.reverse_perm.symm) (by decide +kernel)
      (by decide +kernel)
  refine ⟨environments, first, second, rfl, added, added', fun same => ?_, alike⟩
  have first_eq : first = ((Registry.addEnvironments environments).run {}).2 := by rw [added]
  have second_eq : second = ((Registry.addEnvironments environments.reverse).run {}).2 := by
    rw [added']
  rw [first_eq, second_eq] at same
  exact absurd same (by decide +kernel)

end Document

end LatexFigures
