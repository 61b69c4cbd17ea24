import Mathlib.Data.List.Nodup
import LatexFigures.Proofs.Environment.Partition

/-! The tokens of a region. Its opening mark takes the groups behind it along, its closing mark ends
it at the first place where it stands, and if it is literal, all between them is one content.
-/

namespace LatexFigures

-----------------------------------------------------------------------------------------
-- Names in marks
-----------------------------------------------------------------------------------------

theorem isNameChar_of_mem {name : String} (named : isEnvironmentName name = true) {c : Char}
    (inside : c ∈ name.toList)
    : isNameChar c = true := by
  simp only [isEnvironmentName, Bool.and_eq_true, List.all_eq_true] at named
  exact named.2 c inside

theorem brace_not_mem_of_named {name : String} (named : isEnvironmentName name = true)
    : '\x7d' ∉ name.toList := fun inside => by
  simpa [isNameChar] using isNameChar_of_mem named inside

/-- Marks have no white space. -/
theorem marks_all_not_blank {name : String} (named : isEnvironmentName name = true)
    : (beginMark name).all (!Text.isBlank ·) = true
      ∧ (endMark name).all (!Text.isBlank ·) = true := by
  have inner : name.toList.all (!Text.isBlank ·) = true :=
    List.all_eq_true.mpr fun c inside => by
      have char := isNameChar_of_mem named inside
      simp only [isNameChar, Bool.and_eq_true] at char
      exact char.2
  unfold beginMark endMark
  rw [List.all_append, List.all_append, List.all_append, List.all_append, inner]
  decide

/-- A name in braces is told by the text that begins with it. -/
theorem eq_of_braces {start rest : Text} {name other : String}
    (named : isEnvironmentName name = true) (otherNamed : isEnvironmentName other = true)
    (here : start ++ other.toList ++ ['\x7d'] <+: start ++ name.toList ++ ['\x7d'] ++ rest)
    : other = name := by
  rw [List.append_assoc, List.append_assoc, List.append_assoc,
    List.prefix_append_right_inj] at here
  obtain ⟨behind, whole⟩ := here
  rw [List.append_assoc] at whole
  obtain ⟨same, -⟩ := Text.eq_of_append_cons_eq (brace_not_mem_of_named otherNamed)
    (brace_not_mem_of_named named) whole
  exact String.toList_inj.mp same

/-- A closing mark does not overlap with one in front of it. -/
theorem endMark_prefix_of_append {name : String} (named : isEnvironmentName name = true)
    {front : Text} (nonempty : front ≠ []) (here : endMark name <+: front ++ endMark name)
    : endMark name <+: front := by
  refine Text.prefix_of_prefix_append ?_ nonempty here
  simp [brace_not_mem_of_named named]

theorem Delimiter.splitBegin?_beginMark (d : Delimiter) (rest : Text)
    : d.splitBegin? (beginMark d.kind.tag ++ rest)
      = some (beginMark d.kind.tag ++ (splitArguments rest).1, (splitArguments rest).2) := by
  rw [splitBegin?, Text.after?_eq_some_iff.mpr rfl]
  rfl

namespace DelimiterTable

variable {table : DelimiterTable} {current kind : EnvironmentKind}

theorem named_of_mem_kinds (registered : kind ∈ table.kinds)
    : isEnvironmentName kind.tag = true := by
  obtain ⟨d, -, rfl⟩ := List.mem_map.mp registered
  exact d.named

/-- Names tell registered kinds apart. -/
theorem eq_of_tag_eq {other : EnvironmentKind} (registered : kind ∈ table.kinds)
    (otherRegistered : other ∈ table.kinds) (same : kind.tag = other.tag)
    : kind = other := by
  obtain ⟨d, member, rfl⟩ := List.mem_map.mp registered
  obtain ⟨e, otherMember, rfl⟩ := List.mem_map.mp otherRegistered
  rw [List.inj_on_of_nodup_map table.distinct member otherMember same]

-----------------------------------------------------------------------------------------
-- Finding marks
-----------------------------------------------------------------------------------------

/-- The opening mark of a registered environment is found where it stands, with the groups behind
it.
-/
theorem delimiter?_beginMark (registered : kind ∈ table.kinds) (plain : current.isLiteral = false)
    (rest : Text)
    : table.delimiter? current (beginMark kind.tag ++ rest)
      = some (.opening kind (beginMark kind.tag ++ (Delimiter.splitArguments rest).1),
          (Delimiter.splitArguments rest).2) := by
  obtain ⟨own, member, rfl⟩ := List.mem_map.mp registered
  -- one entry opens here, and whichever is found has the name of this one
  have some : (table.opening? current (beginMark own.kind.tag ++ rest)).isSome := by
    rw [opening?, plain, if_neg Bool.false_ne_true, List.findSome?_isSome_iff]
    exact ⟨own, member, by rw [own.splitBegin?_beginMark]; rfl⟩
  obtain ⟨found, opens⟩ := Option.isSome_iff_exists.mp some
  have same := opens
  rw [opening?, plain, if_neg Bool.false_ne_true] at same
  obtain ⟨d, listed, cut⟩ := List.exists_of_findSome?_eq_some same
  obtain ⟨⟨text, behind⟩, split, rfl⟩ := Option.map_eq_some_iff.mp cut
  have mark : beginMark d.kind.tag <+: beginMark own.kind.tag ++ rest := by
    obtain ⟨whole, starts⟩ := d.splitBegin?_eq_some split
    exact starts.trans (whole ▸ List.prefix_append text behind)
  have kinds : d.kind = own.kind :=
    eq_of_tag_eq (List.mem_map_of_mem listed) registered
      (eq_of_braces own.named d.named mark)
  rw [← kinds, d.splitBegin?_beginMark] at split
  obtain ⟨rfl, rfl⟩ := Prod.mk.inj (Option.some.inj split)
  rw [delimiter?, opens, kinds]
  rfl

/-- In a literal environment its closing mark is found where it stands. -/
theorem delimiter?_endMark (registered : kind ∈ table.kinds) (literal : kind.isLiteral = true)
    (rest : Text)
    : table.delimiter? kind (endMark kind.tag ++ rest)
      = some (.closing kind (endMark kind.tag), rest) := by
  obtain ⟨⟨token, behind⟩, found⟩ := Option.ne_none_iff_exists'.mp
    (delimiter?_ne_none (.closing registered fun _ => rfl) (List.prefix_append _ rest))
  obtain ⟨whole, delimits⟩ := delimiter?_eq_some found
  cases token with
  | content => exact delimits.elim
  | opening other text => simp [delimits.2.1] at literal
  | closing other text =>
      obtain ⟨-, own, rfl⟩ := delimits
      obtain rfl := own literal
      rw [found, List.append_cancel_left whole]

/-- A delimiter that counts begins with a mark that does. -/
theorem exists_mark_of_delimits {token : Token} (h : token.Delimits table current)
    : ∃ mark, table.ActiveMark current mark ∧ mark <+: token.text := by
  cases token with
  | content => exact h.elim
  | opening kind text => exact ⟨_, .opening h.1 h.2.1, h.2.2⟩
  | closing kind text => exact ⟨_, .closing h.1 h.2.1, h.2.2 ▸ List.prefix_rfl⟩

theorem nextDelimiter?_of_unmarked {s : Text} (unmarked : table.Unmarked current s)
    : table.nextDelimiter? current s = none := by
  cases found : table.nextDelimiter? current s with
  | none => rfl
  | some cut =>
      obtain ⟨before, token, behind⟩ := cut
      obtain ⟨whole, delimits, -⟩ := nextDelimiter?_eq_some found
      obtain ⟨mark, active, starts⟩ := exists_mark_of_delimits delimits
      have inside : token.text <:+: s := ⟨before, behind, whole⟩
      exact absurd (starts.isInfix.trans inside) (unmarked mark active)

/-- The first place where something that counts stands is where the next delimiter is found, by
induction on the text in front of it.
-/
theorem nextDelimiter?_append {before rest behind : Text} {token : Token} (nonempty : rest ≠ [])
    (here : table.delimiter? current rest = some (token, behind))
    (first : ∀ front, front ≠ [] → front <:+ before
      → table.delimiter? current (front ++ rest) = none)
    : table.nextDelimiter? current (before ++ rest) = some (before, token, behind) := by
  induction before with
  | nil =>
      cases rest with
      | nil => exact absurd rfl nonempty
      | cons c rest => simp [nextDelimiter?, here]
  | cons c before ih =>
      have later := ih fun front some back => first front some (back.trans (List.suffix_cons _ _))
      have nothing := first (c :: before) (List.cons_ne_nil _ _) List.suffix_rfl
      rw [List.cons_append] at nothing ⊢
      rw [nextDelimiter?, nothing, later]
      rfl

-----------------------------------------------------------------------------------------
-- Scanning a region
-----------------------------------------------------------------------------------------

theorem scan_of_unmarked {s : Text} (unmarked : table.Unmarked current s)
    : table.scan current s = (contentToken current s, current) :=
  scan_of_none (nextDelimiter?_of_unmarked unmarked)

/-- A text that begins with an opening mark is scanned as that delimiter, and then as what is left
behind its groups.
-/
theorem scan_beginMark (registered : kind ∈ table.kinds) (plain : current.isLiteral = false)
    {rest arguments inner : Text} (cut : Delimiter.splitArguments rest = (arguments, inner))
    : table.scan current (beginMark kind.tag ++ rest)
      = (.opening kind (beginMark kind.tag ++ arguments) :: (table.scan kind inner).1,
          (table.scan kind inner).2) := by
  have nonempty : beginMark kind.tag ++ rest ≠ [] :=
    List.append_ne_nil_of_left_ne_nil (beginMark_ne_nil _) _
  have found := nextDelimiter?_append nonempty
    (delimiter?_beginMark registered plain rest) fun front some back =>
      absurd (List.suffix_nil.mp back) some
  rw [List.nil_append, cut] at found
  simp only [scan_of_some found, contentToken, Token.leadsTo]
  rfl

/-- In a literal environment nothing but its own closing mark counts. -/
theorem unmarked_of_literal (literal : kind.isLiteral = true) {s : Text}
    (free : ¬ endMark kind.tag <:+: s)
    : table.Unmarked kind s := by
  intro mark active inside
  cases active with
  | opening _ plain => simp [literal] at plain
  | closing _ own =>
      obtain rfl := own literal
      exact free inside

/-- A literal environment ends at its closing mark, and all in front of that is one content. -/
theorem scan_endMark (registered : kind ∈ table.kinds) (literal : kind.isLiteral = true)
    {s : Text} (free : ¬ endMark kind.tag <:+: s)
    : table.scan kind (s ++ endMark kind.tag)
      = (contentToken kind s ++ [.closing kind (endMark kind.tag)], .math) := by
  -- an earlier mark would stand in the content, since it cannot overlap with the last one
  have first (front : Text) (nonempty : front ≠ []) (back : front <:+ s)
      : table.delimiter? kind (front ++ endMark kind.tag) = none := by
    cases earlier : table.delimiter? kind (front ++ endMark kind.tag) with
    | none => rfl
    | some cut =>
        obtain ⟨token, behind⟩ := cut
        obtain ⟨whole, delimits⟩ := delimiter?_eq_some earlier
        have mark : endMark kind.tag <+: front ++ endMark kind.tag := by
          obtain ⟨mark, active, starts⟩ := exists_mark_of_delimits delimits
          cases active with
          | opening _ plain => simp [literal] at plain
          | closing _ own =>
              obtain rfl := own literal
              exact starts.trans (whole ▸ List.prefix_append _ _)
        have inside := endMark_prefix_of_append (named_of_mem_kinds registered) nonempty mark
        exact absurd (inside.isInfix.trans back.isInfix) free
  have here := delimiter?_endMark registered literal []
  rw [List.append_nil] at here
  rw [scan_of_some (nextDelimiter?_append (endMark_ne_nil _) here first)]
  rfl

end DelimiterTable

end LatexFigures
