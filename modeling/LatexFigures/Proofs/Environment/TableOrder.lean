import LatexFigures.Proofs.Environment.Region

/-! The order of a table does not matter. No two of its entries are found at the same place, so that
tables with the same entries cut every line alike.
-/

namespace LatexFigures

/-- Where at most one result can be found, it is found in any list with the same elements. -/
theorem findSome?_eq_of_mem_iff {α β : Type} {f : α → Option β} {xs ys : List α}
    (same : ∀ x, x ∈ xs ↔ x ∈ ys)
    (single : ∀ x ∈ xs, ∀ y ∈ xs, ∀ a b, f x = some a → f y = some b → a = b)
    : xs.findSome? f = ys.findSome? f := by
  cases found : xs.findSome? f with
  | none =>
      symm
      rw [List.findSome?_eq_none_iff] at found ⊢
      intro y member
      exact found y ((same y).mpr member)
  | some a =>
      obtain ⟨x, member, here⟩ := List.exists_of_findSome?_eq_some found
      have some : (ys.findSome? f).isSome :=
        List.findSome?_isSome_iff.mpr ⟨x, (same x).mp member, by rw [here]; rfl⟩
      obtain ⟨b, other⟩ := Option.isSome_iff_exists.mp some
      obtain ⟨y, listed, there⟩ := List.exists_of_findSome?_eq_some other
      rw [other, single x member y ((same y).mpr listed) a b here there]

namespace DelimiterTable

/-- The tables register the same delimiters, in whatever order. -/
def SameEntries (table other : DelimiterTable) : Prop :=
  ∀ d, d ∈ table.entries ↔ d ∈ other.entries

variable {table other : DelimiterTable} {d e : Delimiter} {s : Text}

-----------------------------------------------------------------------------------------
-- One entry at one place
-----------------------------------------------------------------------------------------

theorem eq_of_mem_of_tag_eq (member : d ∈ table.entries) (otherMember : e ∈ table.entries)
    (same : d.kind.tag = e.kind.tag)
    : d = e :=
  List.inj_on_of_nodup_map table.distinct member otherMember same

/-- Two marks that stand at one place are of one name, which the brace behind it ends. -/
theorem eq_of_marks {start : Text} (member : d ∈ table.entries) (otherMember : e ∈ table.entries)
    (here : start ++ d.kind.tag.toList ++ ['\x7d'] <+: s)
    (there : start ++ e.kind.tag.toList ++ ['\x7d'] <+: s)
    : d = e := by
  apply eq_of_mem_of_tag_eq member otherMember
  rcases List.prefix_or_prefix_of_prefix here there with shorter | longer
  · rw [← List.append_nil (start ++ e.kind.tag.toList ++ ['\x7d'])] at shorter
    exact eq_of_braces e.named d.named shorter
  · rw [← List.append_nil (start ++ d.kind.tag.toList ++ ['\x7d'])] at longer
    exact (eq_of_braces d.named e.named longer).symm

theorem eq_of_splitBegin? (member : d ∈ table.entries) (otherMember : e ∈ table.entries)
    {cut otherCut : Text × Text} (here : d.splitBegin? s = some cut)
    (there : e.splitBegin? s = some otherCut)
    : d = e := by
  obtain ⟨whole, mark⟩ := d.splitBegin?_eq_some here
  obtain ⟨otherWhole, otherMark⟩ := e.splitBegin?_eq_some there
  have stands : beginMark d.kind.tag <+: s := mark.trans ⟨cut.2, whole⟩
  have otherStands : beginMark e.kind.tag <+: s := otherMark.trans ⟨otherCut.2, otherWhole⟩
  exact eq_of_marks member otherMember stands otherStands

theorem eq_of_splitEnd? (member : d ∈ table.entries) (otherMember : e ∈ table.entries)
    {cut otherCut : Text × Text} (here : d.splitEnd? s = some cut)
    (there : e.splitEnd? s = some otherCut)
    : d = e := by
  obtain ⟨whole, mark⟩ := d.splitEnd?_eq_some here
  obtain ⟨otherWhole, otherMark⟩ := e.splitEnd?_eq_some there
  have stands : endMark d.kind.tag <+: s := ⟨cut.2, mark ▸ whole⟩
  have otherStands : endMark e.kind.tag <+: s := ⟨otherCut.2, otherMark ▸ otherWhole⟩
  exact eq_of_marks member otherMember stands otherStands

-----------------------------------------------------------------------------------------
-- Scanning with either table
-----------------------------------------------------------------------------------------

theorem SameEntries.opening?_eq (same : table.SameEntries other) (current : EnvironmentKind)
    (s : Text)
    : table.opening? current s = other.opening? current s := by
  unfold opening?
  split
  · rfl
  · apply findSome?_eq_of_mem_iff same
    intro d member e listed a b here there
    obtain ⟨cut, split, rfl⟩ := Option.map_eq_some_iff.mp here
    obtain ⟨otherCut, otherSplit, rfl⟩ := Option.map_eq_some_iff.mp there
    obtain rfl := eq_of_splitBegin? member listed split otherSplit
    rw [split] at otherSplit
    rw [Option.some.inj otherSplit]

theorem SameEntries.closing?_eq (same : table.SameEntries other) (current : EnvironmentKind)
    (s : Text)
    : table.closing? current s = other.closing? current s := by
  apply findSome?_eq_of_mem_iff same
  intro d member e listed a b here there
  obtain ⟨-, here⟩ := Option.ite_none_left_eq_some.mp here
  obtain ⟨-, there⟩ := Option.ite_none_left_eq_some.mp there
  obtain ⟨cut, split, rfl⟩ := Option.map_eq_some_iff.mp here
  obtain ⟨otherCut, otherSplit, rfl⟩ := Option.map_eq_some_iff.mp there
  obtain rfl := eq_of_splitEnd? member listed split otherSplit
  rw [split] at otherSplit
  rw [Option.some.inj otherSplit]

/-- The leftmost delimiter is the same, by induction on the text. -/
theorem SameEntries.nextDelimiter?_eq (same : table.SameEntries other)
    (current : EnvironmentKind) (s : Text)
    : table.nextDelimiter? current s = other.nextDelimiter? current s := by
  induction s with
  | nil => rfl
  | cons c rest ih =>
      have here : table.delimiter? current (c :: rest) = other.delimiter? current (c :: rest) := by
        rw [delimiter?, delimiter?, same.opening?_eq, same.closing?_eq]
      rw [nextDelimiter?, nextDelimiter?, here, ih]

/-- Every line is cut alike, delimiter by delimiter. -/
theorem SameEntries.scan_eq (same : table.SameEntries other) (current : EnvironmentKind)
    (line : Text)
    : table.scan current line = other.scan current line := by
  induction current, line using scan_induction table with
  | last current s nothing =>
      have nothing' : other.nextDelimiter? current s = none := by
        rw [← same.nextDelimiter?_eq, nothing]
      rw [scan_of_none nothing, scan_of_none nothing']
  | next current s before token behind found ih =>
      have found' : other.nextDelimiter? current s = some (before, token, behind) := by
        rw [← same.nextDelimiter?_eq, found]
      rw [scan_of_some found, scan_of_some found', ih]

end DelimiterTable

end LatexFigures
