import LatexFigures.Proofs.Environment.Scanner

/-! The tokens of a line partition it, and each of them fits the environment in force at its
place: the environment that the last delimiter before it leads into, on the same line or on an
earlier one.
-/

namespace LatexFigures

variable {table : DelimiterTable} {current : EnvironmentKind}

-----------------------------------------------------------------------------------------
-- The environment in force
-----------------------------------------------------------------------------------------

namespace Token

/-- Where a delimiter leads; content leads nowhere. -/
def entered? : Token → Option EnvironmentKind
  | .content .. => none
  | .opening kind _ => some kind
  | .closing .. => some .math

/-- The environment in force behind the tokens of a document so far: where the last delimiter
leads, and running text before any delimiter.
-/
def inForceAfter (tokens : List Token) : EnvironmentKind :=
  (tokens.reverse.findSome? entered?).getD .math

/-- The last delimiter alone decides where tokens lead, by induction from the last one on. -/
theorem foldl_leadsTo (current : EnvironmentKind) (tokens : List Token)
    : tokens.foldl leadsTo current = (tokens.reverse.findSome? entered?).getD current := by
  induction tokens generalizing current with
  | nil => rfl
  | cons token tokens ih =>
      rw [List.foldl_cons, ih, List.reverse_cons, List.findSome?_append]
      cases tokens.reverse.findSome? entered? with
      | some kind => rfl
      | none => cases token <;> rfl

theorem inForceAfter_eq_foldl (tokens : List Token)
    : inForceAfter tokens = tokens.foldl leadsTo .math :=
  (foldl_leadsTo .math tokens).symm

end Token

namespace DelimiterTable

/-- The environment in force behind some lines, as scanning them leaves it. -/
def stateAfter (table : DelimiterTable) : EnvironmentKind → List Text → EnvironmentKind
  | current, [] => current
  | current, line :: lines => table.stateAfter (table.scan current line).2 lines

theorem scan_snd (table : DelimiterTable) (current : EnvironmentKind) (s : Text)
    : (table.scan current s).2 = (table.scan current s).1.foldl Token.leadsTo current := by
  induction current, s using scan_induction table with
  | last current s nothing =>
      rw [scan_of_none nothing]
      unfold contentToken
      split <;> rfl
  | next current s before token behind found ih =>
      rw [scan_of_some found, List.foldl_append, List.foldl_cons]
      unfold contentToken
      split <;> exact ih

theorem stateAfter_eq_foldl (table : DelimiterTable) (current : EnvironmentKind)
    (lines : List Text)
    : table.stateAfter current lines
      = ((table.scanLines current lines).flatMap (·.1)).foldl Token.leadsTo current := by
  induction lines generalizing current with
  | nil => rfl
  | cons line lines ih =>
      simp only [stateAfter, scanLines, List.flatMap_cons, List.foldl_append, ih,
        ← scan_snd]

-----------------------------------------------------------------------------------------
-- Tokens that fit the environment in force
-----------------------------------------------------------------------------------------

/-- The token may stand where (current) is in force: a delimiter that counts there, or content
without any, marked as literal exactly if the environment is.
-/
def Fits (table : DelimiterTable) (current : EnvironmentKind) : Token → Prop
  | .content text literal =>
      text ≠ [] ∧ literal = current.isLiteral ∧ table.Unmarked current text
  | token => token.Delimits table current

/-- Each of the tokens fits the environment to which those before it lead. -/
def Fitting (table : DelimiterTable) : EnvironmentKind → List Token → Prop
  | _, [] => True
  | current, token :: tokens =>
      table.Fits current token ∧ table.Fitting (token.leadsTo current) tokens

theorem Fits.text_ne_nil {token : Token} (h : table.Fits current token) : token.text ≠ [] := by
  cases token with
  | content text literal => exact h.1
  | opening kind text => exact Token.Delimits.text_ne_nil h
  | closing kind text => exact Token.Delimits.text_ne_nil h

theorem fits_of_delimits {token : Token} (h : token.Delimits table current)
    : table.Fits current token := by
  cases token with
  | content => exact h.elim
  | opening | closing => exact h

theorem fitting_contentToken {s : Text} {tokens : List Token}
    (unmarked : table.Unmarked current s) (more : table.Fitting current tokens)
    : table.Fitting current (contentToken current s ++ tokens) := by
  unfold contentToken
  split
  · exact more
  · rename_i some
    exact ⟨⟨by simpa using some, rfl, unmarked⟩, more⟩

/-- The tokens of a text fit the environments in force at their places. -/
theorem fitting_scan (table : DelimiterTable) (current : EnvironmentKind) (s : Text)
    : table.Fitting current (table.scan current s).1 := by
  induction current, s using scan_induction table with
  | last current s nothing =>
      rw [scan_of_none nothing]
      simpa using fitting_contentToken
        (unmarked_of_nextDelimiter?_eq_none nothing) (show table.Fitting current [] from trivial)
  | next current s before token behind found ih =>
      obtain ⟨-, delimits, unmarked⟩ := nextDelimiter?_eq_some found
      rw [scan_of_some found]
      exact fitting_contentToken unmarked ⟨fits_of_delimits delimits, ih⟩

theorem fitting_append_iff {tokens more : List Token}
    : table.Fitting current (tokens ++ more)
      ↔ table.Fitting current tokens
        ∧ table.Fitting (tokens.foldl Token.leadsTo current) more := by
  induction tokens generalizing current with
  | nil => simp [Fitting]
  | cons token tokens ih => simp [Fitting, ih, and_assoc]

/-- The tokens of several lines fit the environments in force at their places. -/
theorem fitting_scanLines (table : DelimiterTable) (current : EnvironmentKind)
    (lines : List Text)
    : table.Fitting current ((table.scanLines current lines).flatMap (·.1)) := by
  induction lines generalizing current with
  | nil => trivial
  | cons line lines ih =>
      simp only [scanLines, List.flatMap_cons]
      refine fitting_append_iff.mpr ⟨fitting_scan table current line, ?_⟩
      rw [← scan_snd]
      exact ih _

/-- Tokens that fit lead into running text or into a registered environment. -/
theorem Fitting.registered {tokens : List Token} (h : table.Fitting .math tokens)
    : Token.inForceAfter tokens = .math ∨ Token.inForceAfter tokens ∈ table.kinds := by
  rw [Token.inForceAfter_eq_foldl]
  suffices ∀ current, (current = .math ∨ current ∈ table.kinds)
      → table.Fitting current tokens
      → tokens.foldl Token.leadsTo current = .math
        ∨ tokens.foldl Token.leadsTo current ∈ table.kinds from
    this .math (.inl rfl) h
  clear h
  induction tokens with
  | nil => exact fun current known _ => known
  | cons token tokens ih =>
      intro current known fits
      refine ih (token.leadsTo current) ?_ fits.2
      cases token with
      | content => exact known
      | opening kind text => exact .inr fits.1.1
      | closing kind text => exact .inl rfl

-----------------------------------------------------------------------------------------
-- Partition
-----------------------------------------------------------------------------------------

/-- Nothing of a text is lost, doubled or moved. -/
theorem scan_flatMap_text (table : DelimiterTable) (current : EnvironmentKind) (s : Text)
    : (table.scan current s).1.flatMap Token.text = s := by
  have content (current : EnvironmentKind) (s : Text)
      : (contentToken current s).flatMap Token.text = s := by
    unfold contentToken
    split
    · simp_all
    · simp [Token.text]
  induction current, s using scan_induction table with
  | last current s nothing => rw [scan_of_none nothing, content]
  | next current s before token behind found ih =>
      obtain ⟨whole, -, -⟩ := nextDelimiter?_eq_some found
      rw [scan_of_some found, List.flatMap_append, List.flatMap_cons, content, ih,
        ← List.append_assoc, whole]

/-- Whatever lines came before, the tokens of a line partition it. No content holds a mark that
counts at its place, content is marked as literal exactly in a literal environment, and such an
environment is left only through its own closing delimiter.
-/
theorem scan_partitions_line (table : DelimiterTable) (earlier : List Text) (line : Text)
    : let current := table.stateAfter .math earlier
      let seen := (table.scanLines .math earlier).flatMap (·.1)
      let tokens := (table.scan current line).1
      (∀ most, line.length ≤ most
        → table.scanUpTo most current line = table.scan current line)
      ∧ tokens.flatMap Token.text = line
      ∧ (∀ token ∈ tokens, token.text ≠ [])
      ∧ (table.scan current line).2 = Token.inForceAfter (seen ++ tokens)
      ∧ ∀ before token after,
          tokens = before ++ token :: after
          → let inForce := Token.inForceAfter (seen ++ before)
            match token with
            | .content text literal =>
                literal = inForce.isLiteral
                ∧ (literal = false → ∀ kind ∈ table.kinds,
                    ¬ beginMark kind.tag <:+: text ∧ ¬ endMark kind.tag <:+: text)
                ∧ (literal = true → ¬ endMark inForce.tag <:+: text)
            | .opening kind text =>
                inForce.isLiteral = false
                ∧ kind ∈ table.kinds
                ∧ beginMark kind.tag <+: text
            | .closing kind text =>
                (inForce.isLiteral = true → kind = inForce)
                ∧ kind ∈ table.kinds
                ∧ text = endMark kind.tag := by
  intro current seen tokens
  have fits : table.Fitting .math (seen ++ tokens) := by
    refine fitting_append_iff.mpr ⟨fitting_scanLines table .math earlier, ?_⟩
    rw [← stateAfter_eq_foldl]
    exact fitting_scan table current line
  have place {before token after} (here : tokens = before ++ token :: after)
      : table.Fits (Token.inForceAfter (seen ++ before)) token := by
    rw [here, ← List.append_assoc] at fits
    rw [Token.inForceAfter_eq_foldl]
    exact (fitting_append_iff.mp fits).2.1
  refine ⟨fun most => scanUpTo_eq_scan, scan_flatMap_text table current line, ?_, ?_, ?_⟩
  · intro token member
    obtain ⟨before, after, here⟩ := List.append_of_mem member
    exact (place here).text_ne_nil
  · rw [scan_snd, Token.inForceAfter_eq_foldl, List.foldl_append, ← stateAfter_eq_foldl]
  · intro before token after here inForce
    have fit := place here
    cases token with
    | content text literal =>
        obtain ⟨-, same, unmarked⟩ := fit
        refine ⟨same, fun plain kind registered => ?_, fun isLiteral => ?_⟩
        · have plain : inForce.isLiteral = false := same ▸ plain
          exact ⟨unmarked _ (.opening registered plain),
            unmarked _ (.closing registered fun literal =>
              absurd (plain.symm.trans literal) Bool.false_ne_true)⟩
        · -- a literal environment is not running text, so it is registered
          have literal : inForce.isLiteral = true := same ▸ isLiteral
          rw [here, ← List.append_assoc] at fits
          rcases (fitting_append_iff.mp fits).1.registered with running | registered
          · simp [inForce, running, EnvironmentKind.isLiteral] at literal
          · exact unmarked _ (.closing registered fun _ => rfl)
    | opening kind text => exact ⟨fit.2.1, fit.1, fit.2.2⟩
    | closing kind text => exact ⟨fit.2.1, fit.1, fit.2.2⟩

end DelimiterTable

end LatexFigures
