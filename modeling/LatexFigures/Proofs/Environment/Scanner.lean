import LatexFigures.Environment.Scanner
import LatexFigures.Proofs.Environment.Delimiter

/-! What scanning finds: the leftmost delimiter that counts, with nothing that counts before it.
The bound on the number of delimiters is never reached, so that scanning unfolds delimiter by
delimiter.
-/

namespace LatexFigures

variable {table : DelimiterTable} {current : EnvironmentKind}

/-- The marks that count while (current) is in force: all of them, or the closing mark of a
literal environment alone.
-/
inductive DelimiterTable.ActiveMark (table : DelimiterTable) (current : EnvironmentKind)
    : Text → Prop
  | opening {kind} (registered : kind ∈ table.kinds) (plain : current.isLiteral = false)
    : table.ActiveMark current (beginMark kind.tag)
  | closing {kind} (registered : kind ∈ table.kinds)
    (own : current.isLiteral = true → kind = current)
    : table.ActiveMark current (endMark kind.tag)

theorem DelimiterTable.ActiveMark.ne_nil {mark : Text} (active : table.ActiveMark current mark)
    : mark ≠ [] := by
  cases active with
  | opening => exact beginMark_ne_nil _
  | closing => exact endMark_ne_nil _

/-- No mark that counts stands anywhere in the text. -/
def DelimiterTable.Unmarked (table : DelimiterTable) (current : EnvironmentKind) (s : Text)
    : Prop :=
  ∀ mark, table.ActiveMark current mark → ¬ mark <:+: s

/-- The token is a delimiter that counts while (current) is in force. -/
def Token.Delimits (table : DelimiterTable) (current : EnvironmentKind) : Token → Prop
  | .content .. => False
  | .opening kind text =>
      kind ∈ table.kinds ∧ current.isLiteral = false ∧ beginMark kind.tag <+: text
  | .closing kind text =>
      kind ∈ table.kinds
      ∧ (current.isLiteral = true → kind = current)
      ∧ text = endMark kind.tag

theorem Token.Delimits.text_ne_nil {token : Token} (h : token.Delimits table current)
    : token.text ≠ [] := by
  cases token with
  | content => exact h.elim
  | opening kind text =>
      intro empty
      have mark : beginMark kind.tag <+: [] := empty ▸ h.2.2
      exact beginMark_ne_nil _ (List.prefix_nil.mp mark)
  | closing kind text =>
      intro empty
      exact endMark_ne_nil _ (h.2.2.symm.trans empty)

namespace DelimiterTable

-----------------------------------------------------------------------------------------
-- The delimiter at one place
-----------------------------------------------------------------------------------------

/-- What is found at the head of a text is a delimiter that counts, and a part of the text. -/
theorem delimiter?_eq_some {s behind : Text} {token : Token}
    (found : table.delimiter? current s = some (token, behind))
    : token.text ++ behind = s ∧ token.Delimits table current := by
  have registered {d} (member : d ∈ table.entries) : d.kind ∈ table.kinds :=
    List.mem_map.mpr ⟨d, member, rfl⟩
  rcases Option.or_eq_some_iff.mp found with opens | ⟨-, closes⟩
  · unfold opening? at opens
    split at opens
    · simp at opens
    · rename_i plain
      obtain ⟨d, member, cut⟩ := List.exists_of_findSome?_eq_some opens
      obtain ⟨⟨text, rest⟩, split, same⟩ := Option.map_eq_some_iff.mp cut
      obtain ⟨rfl, rfl⟩ := Prod.mk.inj same
      obtain ⟨whole, mark⟩ := d.splitBegin?_eq_some split
      exact ⟨whole, registered member, by simpa using plain, mark⟩
  · obtain ⟨d, member, cut⟩ := List.exists_of_findSome?_eq_some closes
    split at cut
    · simp at cut
    · rename_i counts
      obtain ⟨⟨text, rest⟩, split, same⟩ := Option.map_eq_some_iff.mp cut
      obtain ⟨rfl, rfl⟩ := Prod.mk.inj same
      obtain ⟨whole, mark⟩ := d.splitEnd?_eq_some split
      refine ⟨whole, registered member, fun literal => ?_, mark⟩
      simpa [literal] using counts

/-- Where a mark that counts stands, something is found, from the table's entry for it. -/
theorem delimiter?_ne_none {s mark : Text} (active : table.ActiveMark current mark)
    (here : mark <+: s)
    : table.delimiter? current s ≠ none := by
  intro nothing
  obtain ⟨opens, closes⟩ := Option.or_eq_none_iff.mp nothing
  cases active with
  | opening registered plain =>
      obtain ⟨d, member, rfl⟩ := List.mem_map.mp registered
      simp only [opening?, plain, Bool.false_eq_true, if_false, List.findSome?_eq_none_iff,
        Option.map_eq_none_iff, Delimiter.splitBegin?_eq_none_iff] at opens
      exact opens d member here
  | closing registered own =>
      obtain ⟨d, member, rfl⟩ := List.mem_map.mp registered
      have counts : ¬ (current.isLiteral ∧ d.kind ≠ current) := fun foreign =>
        foreign.2 (own foreign.1)
      have missing := List.findSome?_eq_none_iff.mp closes d member
      simp only [Bool.and_eq_true, decide_eq_true_eq, counts, if_false,
        Option.map_eq_none_iff, Delimiter.splitEnd?_eq_none_iff] at missing
      exact missing here

-----------------------------------------------------------------------------------------
-- The leftmost delimiter
-----------------------------------------------------------------------------------------

/-- Without a delimiter that counts the text is unmarked, by induction on the text. -/
theorem unmarked_of_nextDelimiter?_eq_none {s : Text}
    (nothing : table.nextDelimiter? current s = none)
    : table.Unmarked current s := by
  induction s with
  | nil =>
      intro mark active inside
      exact active.ne_nil (List.infix_nil.mp inside)
  | cons c rest ih =>
      unfold nextDelimiter? at nothing
      split at nothing
      · simp at nothing
      · rename_i missing
        intro mark active inside
        rcases List.infix_cons_iff.mp inside with here | later
        · exact delimiter?_ne_none active here missing
        · exact ih (Option.map_eq_none_iff.mp nothing) mark active later

/-- The leftmost delimiter counts, the text in front of it is unmarked, and nothing is lost. By
induction on the text.
-/
theorem nextDelimiter?_eq_some {s before behind : Text} {token : Token}
    (found : table.nextDelimiter? current s = some (before, token, behind))
    : before ++ token.text ++ behind = s
      ∧ token.Delimits table current
      ∧ table.Unmarked current before := by
  induction s generalizing before with
  | nil => simp [nextDelimiter?] at found
  | cons c rest ih =>
      unfold nextDelimiter? at found
      split at found
      · rename_i first rest' here
        obtain ⟨rfl, rfl, rfl⟩ : [] = before ∧ first = token ∧ rest' = behind := by
          simpa using found
        obtain ⟨whole, delimits⟩ := delimiter?_eq_some here
        exact ⟨whole, delimits, fun mark active inside =>
          active.ne_nil (List.infix_nil.mp inside)⟩
      · rename_i missing
        obtain ⟨⟨before, first, rest'⟩, later, same⟩ := Option.map_eq_some_iff.mp found
        obtain ⟨rfl, rfl, rfl⟩ : c :: before = _ ∧ first = token ∧ rest' = behind := by
          simpa using same
        obtain ⟨whole, delimits, unmarked⟩ := ih later
        refine ⟨by simp [← whole], delimits, fun mark active inside => ?_⟩
        rcases List.infix_cons_iff.mp inside with here | later
        · refine delimiter?_ne_none active ?_ missing
          rw [← whole, List.append_assoc, ← List.cons_append]
          exact here.trans (List.prefix_append _ _)
        · exact unmarked mark active later

theorem length_behind_lt {s before behind : Text} {token : Token}
    (found : table.nextDelimiter? current s = some (before, token, behind))
    : behind.length < s.length := by
  obtain ⟨rfl, delimits, -⟩ := nextDelimiter?_eq_some found
  have covers := List.length_pos_iff.mpr delimits.text_ne_nil
  simp only [List.length_append]
  omega

-----------------------------------------------------------------------------------------
-- Scanning, delimiter by delimiter
-----------------------------------------------------------------------------------------

/-- Bounds that are not below the length of the text all give the same. By induction on one
bound; each delimiter lowers both bounds and shortens the text.
-/
theorem scanUpTo_congr {most other : Nat} {s : Text} (enough : s.length ≤ most)
    (enough' : s.length ≤ other)
    : table.scanUpTo most current s = table.scanUpTo other current s := by
  induction most generalizing other current s with
  | zero =>
      have empty : s = [] := List.length_eq_zero_iff.mp (Nat.le_zero.mp enough)
      subst empty
      cases other <;> simp [scanUpTo, nextDelimiter?]
  | succ most ih =>
      cases other with
      | zero =>
          have empty : s = [] := List.length_eq_zero_iff.mp (Nat.le_zero.mp enough')
          subst empty
          simp [scanUpTo, nextDelimiter?]
      | succ other =>
          cases found : table.nextDelimiter? current s with
          | none => simp only [scanUpTo, found]
          | some cut =>
              obtain ⟨before, token, behind⟩ := cut
              have shorter := length_behind_lt found
              simp only [scanUpTo, found,
                ih (by omega : behind.length ≤ most) (by omega : behind.length ≤ other)]

/-- Scanning does not depend on its bound: any bound from the length of the text on will do. -/
theorem scanUpTo_eq_scan {most : Nat} {s : Text} (enough : s.length ≤ most)
    : table.scanUpTo most current s = table.scan current s :=
  scanUpTo_congr enough (Nat.le_refl _)

theorem scan_of_none {s : Text} (nothing : table.nextDelimiter? current s = none)
    : table.scan current s = (contentToken current s, current) := by
  rw [← scanUpTo_eq_scan (Nat.le_succ s.length)]
  simp only [scanUpTo, nothing]

/-- The leftmost delimiter is one token, with the content in front of it before and the tokens of
what follows behind it.
-/
theorem scan_of_some {s before behind : Text} {token : Token}
    (found : table.nextDelimiter? current s = some (before, token, behind))
    : table.scan current s
      = (contentToken current before
          ++ token :: (table.scan (token.leadsTo current) behind).1,
        (table.scan (token.leadsTo current) behind).2) := by
  rw [← scanUpTo_eq_scan (Nat.le_succ s.length)]
  simp only [scanUpTo, found, scanUpTo_eq_scan (Nat.le_of_lt (length_behind_lt found))]

/-- Induction along a scan: from what is left behind a delimiter to the whole text. -/
theorem scan_induction (table : DelimiterTable) {motive : EnvironmentKind → Text → Prop}
    (last : ∀ current s, table.nextDelimiter? current s = none → motive current s)
    (next : ∀ current s before token behind,
      table.nextDelimiter? current s = some (before, token, behind)
      → motive (token.leadsTo current) behind
      → motive current s)
    (current : EnvironmentKind) (s : Text)
    : motive current s := by
  induction size : s.length using Nat.strongRecOn generalizing current s with
  | ind size ih =>
      cases found : table.nextDelimiter? current s with
      | none => exact last current s found
      | some cut =>
          obtain ⟨before, token, behind⟩ := cut
          have shorter := length_behind_lt found
          exact next current s before token behind found
            (ih behind.length (by omega) (token.leadsTo current) behind rfl)

end DelimiterTable

end LatexFigures
