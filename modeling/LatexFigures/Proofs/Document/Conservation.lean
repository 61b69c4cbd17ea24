import LatexFigures.Proofs.Document.Progress

/-! Reading conserves content. The fragments that count are shown in their order and each once, in
segments of the environment in force, and delimiters alone separate segments.
-/

namespace LatexFigures

/-- The token separates segments. -/
def Token.isDelimiter : Token → Bool
  | .content .. => false
  | .opening .. | .closing .. => true

namespace Document

-----------------------------------------------------------------------------------------
-- Fragments that count
-----------------------------------------------------------------------------------------

/-- A content fragment with the tokens in front of it. -/
structure Fragment where
  before : List Token
  text : Text

/-- The fragment counts while (kind) is in force: it is not blank, and it is literal or else
neither ignored nor a declaration of settings outside of figures.
-/
def counts (rules : TextRules) (kind : EnvironmentKind) (text : Text) (literal : Bool) : Bool :=
  !text.isAllBlank
    && (literal
        || (!rules.isIgnored text && ((Settings.bodyIn? text).isNone || kind.isFigure)))

/-- The fragment that a token is, if it counts. -/
def fragment? (rules : TextRules) (before : List Token) : Token → Option Fragment
  | .content text literal =>
      if counts rules (Token.inForceAfter before) text literal then some ⟨before, text⟩
      else none
  | _ => none

/-- The fragments that count among some tokens behind others. -/
def fragmentsFrom (rules : TextRules) (before : List Token) : List Token → List Fragment
  | [] => []
  | token :: more =>
      (fragment? rules before token).toList ++ fragmentsFrom rules (before ++ [token]) more

/-- The fragments that count in a document. -/
def fragments (rules : TextRules) (tokens : List Token) : List Fragment :=
  fragmentsFrom rules [] tokens

/-- A text with its kind and a number, which tells the places of texts apart. -/
structure Placed where
  number : Nat
  kind : EnvironmentKind
  text : Text

/-- The lines of a numbered segment. -/
def placedIn (segment : Segment) (number : Nat) : List Placed :=
  segment.lines.map fun line => ⟨number, segment.kind, line⟩

/-- The lines of numbered segments. -/
def placed (segments : List (Segment × Nat)) : List Placed :=
  segments.flatMap fun (segment, number) => placedIn segment number

/-- The lines of segments, each with the index of its segment. -/
def shown (segments : List Segment) : List Placed := placed segments.zipIdx

/-- The environment in force at a fragment, with the number of delimiters in front of it. -/
def Fragment.placed (fragment : Fragment) : Placed :=
  ⟨fragment.before.countP Token.isDelimiter, Token.inForceAfter fragment.before, fragment.text⟩

-----------------------------------------------------------------------------------------
-- Order of fragments
-----------------------------------------------------------------------------------------

variable {rules : TextRules}

/-- The fragments among tokens that follow one another, by induction on the first ones. -/
theorem fragmentsFrom_append (before tokens more : List Token)
    : fragmentsFrom rules before (tokens ++ more)
      = fragmentsFrom rules before tokens ++ fragmentsFrom rules (before ++ tokens) more := by
  induction tokens generalizing before with
  | nil => simp [fragmentsFrom]
  | cons token tokens ih => simp [fragmentsFrom, ih]

theorem fragments_append_singleton (tokens : List Token) (token : Token)
    : fragments rules (tokens ++ [token])
      = fragments rules tokens ++ (fragment? rules tokens token).toList := by
  simp [fragments, fragmentsFrom_append, fragmentsFrom]

theorem before_of_fragment? {before : List Token} {token : Token} {fragment : Fragment}
    (found : fragment? rules before token = some fragment)
    : fragment.before = before := by
  cases token with
  | content text literal =>
      simp only [fragment?] at found
      split at found
      · rw [← Option.some.inj found]
      · simp at found
  | opening | closing => simp [fragment?] at found

theorem prefix_of_mem_fragmentsFrom {before tokens : List Token} {fragment : Fragment}
    (member : fragment ∈ fragmentsFrom rules before tokens)
    : before <+: fragment.before := by
  induction tokens generalizing before with
  | nil => simp [fragmentsFrom] at member
  | cons token tokens ih =>
      rcases List.mem_append.mp member with first | later
      · exact before_of_fragment? (Option.mem_toList.mp first) ▸ List.prefix_rfl
      · exact (List.prefix_append before [token]).trans (ih later)

/-- What stands in front of a fragment stands in front of every later one. -/
theorem fragmentsFrom_pairwise (before tokens : List Token)
    : (fragmentsFrom rules before tokens).Pairwise (·.before <+: ·.before) := by
  induction tokens generalizing before with
  | nil => exact .nil
  | cons token tokens ih =>
      refine List.pairwise_append.mpr ⟨?_, ih _, ?_⟩
      · cases fragment? rules before token <;> simp
      · intro first member later behind
        rw [before_of_fragment? (Option.mem_toList.mp member)]
        exact (List.prefix_append before [token]).trans (prefix_of_mem_fragmentsFrom behind)

/-- What stands in front of one fragment stands in front of any that is not earlier. -/
theorem fragments_inOrder {tokens : List Token} {i j : Nat} {first second : Fragment}
    (order : i ≤ j) (atFirst : (fragments rules tokens)[i]? = some first)
    (atSecond : (fragments rules tokens)[j]? = some second)
    : first.before <+: second.before := by
  obtain ⟨belowFirst, rfl⟩ := List.getElem?_eq_some_iff.mp atFirst
  obtain ⟨belowSecond, rfl⟩ := List.getElem?_eq_some_iff.mp atSecond
  rcases Nat.lt_or_eq_of_le order with less | rfl
  · exact List.pairwise_iff_getElem.mp (fragmentsFrom_pairwise [] tokens)
      i j belowFirst belowSecond less
  · exact List.prefix_rfl

/-- Two fragments have the same number exactly if no delimiter stands between them. -/
theorem number_eq_iff {first second : Fragment} (order : first.before <+: second.before)
    : first.placed.number = second.placed.number
      ↔ ∀ token ∈ second.before.drop first.before.length, token.isDelimiter = false := by
  obtain ⟨between, whole⟩ := order
  simp only [Fragment.placed, ← whole, List.countP_append, List.drop_left, Nat.left_eq_add,
    List.countP_eq_zero, Bool.not_eq_true]

-----------------------------------------------------------------------------------------
-- Progress follows the tokens read so far
-----------------------------------------------------------------------------------------

/-- What is collected behind the tokens (seen): the fragments that count, in the segments and in
what is still being collected. Increasing numbers tell the segments apart; they are those of the
fragments, namely how many delimiters stand in front.
-/
structure Follows (rules : TextRules) (seen : List Token) (p : Progress) : Prop where
  kind : p.pending.kind = Token.inForceAfter seen
  content
    : ∃ numbers : List Nat,
        numbers.length = p.segments.length
        ∧ (numbers ++ [seen.countP Token.isDelimiter]).Pairwise (· < ·)
        ∧ (fragments rules seen).map Fragment.placed
          = placed (p.segments.zip numbers)
            ++ p.pending.lines.map fun line =>
                ⟨seen.countP Token.isDelimiter, p.pending.kind, line⟩

theorem placed_append_singleton {segments : List Segment} {numbers : List Nat}
    (aligned : numbers.length = segments.length) (segment : Segment) (number : Nat)
    : placed ((segments ++ [segment]).zip (numbers ++ [number]))
      = placed (segments.zip numbers) ++ placedIn segment number := by
  simp [placed, List.zip_append aligned.symm]

/-- Content changes what is being collected by the fragment that it is, if it counts. -/
theorem addContent_lines (rules : TextRules) (p : Progress) (text : Text) (literal : Bool)
    : (p.addContent rules text literal).pending.lines
      = p.pending.lines ++ if counts rules p.pending.kind text literal then [text] else [] := by
  unfold Progress.addContent counts
  cases text.isAllBlank with
  | true => simp
  | false =>
      cases literal with
      | true => simp [Progress.keep]
      | false =>
          cases rules.isIgnored text with
          | true => simp
          | false =>
              cases Settings.bodyIn? text with
              | none => simp [Progress.keep]
              | some body =>
                  cases figure : p.pending.kind.isFigure <;> simp [Progress.keep, figure]

theorem Follows.content_step {seen : List Token} {p : Progress} (h : Follows rules seen p)
    (text : Text) (literal : Bool)
    : Follows rules (seen ++ [.content text literal]) (p.addContent rules text literal) := by
  obtain ⟨segments, kind, -⟩ := Progress.addContent_frame rules p text literal
  obtain ⟨numbers, aligned, increasing, same⟩ := h.content
  have inForce : Token.inForceAfter (seen ++ [.content text literal])
      = Token.inForceAfter seen := by
    simp [Token.inForceAfter_eq_foldl, Token.leadsTo]
  have number : (seen ++ [Token.content text literal]).countP Token.isDelimiter
      = seen.countP Token.isDelimiter := by
    simp [Token.isDelimiter]
  refine ⟨by rw [kind, h.kind, inForce], numbers, by rw [segments, aligned], ?_, ?_⟩
  · rwa [number]
  · rw [fragments_append_singleton, List.map_append, same, segments, kind, number,
      addContent_lines, List.map_append, List.append_assoc, fragment?, ← h.kind]
    split <;> simp [Fragment.placed, h.kind]

theorem Follows.close_step {seen : List Token} {p : Progress} {token : Token}
    {pending : Pending} (h : Follows rules seen p) (delimiter : token.isDelimiter = true)
    (kind : pending.kind = token.leadsTo (Token.inForceAfter seen)) (empty : pending.lines = [])
    : Follows rules (seen ++ [token]) (p.close pending) := by
  obtain ⟨numbers, aligned, increasing, same⟩ := h.content
  have nothing : fragment? rules seen token = none := by
    cases token with
    | content => simp [Token.isDelimiter] at delimiter
    | opening | closing => rfl
  have inForce : pending.kind = Token.inForceAfter (seen ++ [token]) := by
    rw [kind, Token.inForceAfter_eq_foldl, Token.inForceAfter_eq_foldl, List.foldl_append]
    rfl
  have number : (seen ++ [token]).countP Token.isDelimiter
      = seen.countP Token.isDelimiter + 1 := by
    simp [delimiter]
  have fragments_same : fragments rules (seen ++ [token]) = fragments rules seen := by
    simp [fragments_append_singleton, nothing]
  obtain ⟨ordered, -, below⟩ := List.pairwise_append.mp increasing
  unfold Progress.close
  split
  · rename_i unused
    refine ⟨inForce, numbers, aligned, ?_, ?_⟩
    · refine List.pairwise_append.mpr ⟨ordered, by simp, fun earlier member last here => ?_⟩
      have less := below earlier member _ (List.mem_singleton_self _)
      rw [List.mem_singleton.mp here, number]
      omega
    · simpa [fragments_same, empty, List.isEmpty_iff.mp unused] using same
  · refine ⟨inForce, numbers ++ [seen.countP Token.isDelimiter], by simp [aligned], ?_, ?_⟩
    · refine List.pairwise_append.mpr ⟨increasing, by simp, fun earlier member last here => ?_⟩
      rw [List.mem_singleton.mp here, number]
      rcases List.mem_append.mp member with before | newest
      · have less := below earlier before _ (List.mem_singleton_self _)
        omega
      · rw [List.mem_singleton.mp newest]
        omega
    · rw [fragments_same, same, placed_append_singleton aligned]
      simp [placedIn, empty]

/-- Every step is followed. -/
theorem Follows.step {seen : List Token} {p next : Progress} {item : Item}
    (h : Follows rules seen p) (step : p.step? rules item = some next)
    : Follows rules (seen ++ item.token?.toList) next := by
  cases item with
  | blank =>
      obtain rfl := Option.some.inj step
      simpa [Item.token?] using (⟨h.kind, h.content⟩ : Follows rules seen p.addBlank)
  | token line piece =>
      cases piece with
      | content text literal =>
          obtain rfl := Option.some.inj step
          exact h.content_step text literal
      | closing kind text =>
          obtain rfl := Option.some.inj step
          exact h.close_step rfl rfl rfl
      | opening kind header =>
          obtain ⟨pending, rfl, same, empty, -⟩ := Progress.enter?_eq_some step
          exact h.close_step rfl same empty

-----------------------------------------------------------------------------------------
-- Conservation
-----------------------------------------------------------------------------------------

/-- The same text in a place that bears another number. -/
def Placed.renumber (f : Nat → Nat) (p : Placed) : Placed := { p with number := f p.number }

theorem placed_zip_eq_map {segments : List Segment} {numbers : List Nat}
    (aligned : numbers.length = segments.length)
    : placed (segments.zip numbers) = (shown segments).map (.renumber (numbers.getD · 0)) := by
  have pairs : segments.zip numbers
      = segments.zipIdx.map fun (segment, index) => (segment, numbers.getD index 0) := by
    refine List.ext_getElem (by simp [aligned]) fun index below _ => ?_
    have inside : index < numbers.length := by
      simp only [List.length_zip] at below
      omega
    simp [List.getD_eq_getElem?_getD, inside]
  simp [pairs, shown, placed, List.flatMap_map, List.map_flatMap, placedIn,
    Function.comp_def, Placed.renumber]

theorem number_lt_of_mem_shown {segments : List Segment} {line : Placed}
    (member : line ∈ shown segments)
    : line.number < segments.length := by
  obtain ⟨⟨segment, index⟩, numbered, inside⟩ := List.mem_flatMap.mp member
  obtain ⟨text, -, rfl⟩ := List.mem_map.mp inside
  simpa using (List.mem_zipIdx numbered).2.1

theorem shown_map_text (segments : List Segment)
    : (shown segments).map (·.text) = segments.flatMap (·.lines) := by
  have all : segments.flatMap (·.lines)
      = (segments.zipIdx.map Prod.fst).flatMap (·.lines) := by
    rw [List.zipIdx_map_fst]
  rw [all, List.flatMap_map]
  simp [shown, placed, placedIn, List.map_flatMap, Function.comp_def]

/-- What is collected when a document ends are the fragments that count, in segments whose
numbers increase. The end closes what is being collected like a delimiter.
-/
theorem Follows.segments {seen : List Token} {p : Progress} (h : Follows rules seen p)
    : ∃ numbers : List Nat,
        numbers.length = (p.close { kind := .math }).segments.length
        ∧ numbers.Pairwise (· < ·)
        ∧ (fragments rules seen).map Fragment.placed
          = placed ((p.close { kind := .math }).segments.zip numbers) := by
  let last : Token := .closing .math []
  have ended : Follows rules (seen ++ [last]) (p.close { kind := .math }) :=
    h.close_step rfl rfl rfl
  obtain ⟨numbers, aligned, increasing, same⟩ := ended.content
  have nothing : (p.close { kind := .math }).pending.lines = [] := by
    unfold Progress.close
    split <;> rfl
  refine ⟨numbers, aligned, (List.pairwise_append.mp increasing).1, ?_⟩
  simpa [fragments_append_singleton, fragment?, nothing, last] using same

/-- If a document can be read, its segments conserve content. Their lines are exactly the
fragments that count, in order and each once, in segments of the environment in force. Two of
them share a segment exactly if no delimiter stands between them. No segment is without lines,
and exactly figures have a drawing.
-/
theorem parse_conserves_content {registry : Registry} {s : Text} {segments : List Segment}
    (parsed : parse registry s = .ok segments)
    : let kept := fragments registry.rules (tokens registry.delimiters s)
      segments.flatMap (·.lines) = kept.map (·.text)
      ∧ (shown segments).map (·.text) = kept.map (·.text)
      ∧ (shown segments).map (·.kind)
        = kept.map (fun fragment => Token.inForceAfter fragment.before)
      ∧ (∀ (i j : Nat) (first second : Fragment) (here there : Placed),
          i ≤ j
          → kept[i]? = some first
          → kept[j]? = some second
          → (shown segments)[i]? = some here
          → (shown segments)[j]? = some there
          → (here.number = there.number
              ↔ ∀ token ∈ second.before.drop first.before.length,
                  token.isDelimiter = false))
      ∧ (∀ segment ∈ segments, segment.lines ≠ [])
      ∧ ∀ segment ∈ segments, segment.figure.isSome ↔ segment.kind = .figure := by
  obtain ⟨last, run, rfl⟩ := collect_eq_ok_iff.mp parsed
  intro kept
  have sound : last.Sound :=
    run_preserves (fun _ p => p.Sound) Progress.Sound.step [] ⟨by simp, by simp, by simp⟩ run
  have closed : (last.close { kind := .math }).Sound := sound.close (by simp)
  have follows : Follows registry.rules (tokens registry.delimiters s) last := by
    rw [← items_tokens]
    exact run_preserves (Follows registry.rules) Follows.step []
      ⟨rfl, [], rfl, by simp, rfl⟩ run
  obtain ⟨numbers, aligned, increasing, same⟩ := follows.segments
  rw [placed_zip_eq_map aligned] at same
  have texts : (shown (last.close { kind := .math }).segments).map (·.text)
      = kept.map (·.text) := by
    simpa [Function.comp_def, Placed.renumber, Fragment.placed]
      using (congrArg (List.map (·.text)) same).symm
  refine ⟨shown_map_text _ ▸ texts, texts, ?_, ?_, closed.content, closed.drawn⟩
  · simpa [Function.comp_def, Placed.renumber, Fragment.placed]
      using (congrArg (List.map (·.kind)) same).symm
  · intro i j first second here there order atFirst atSecond atHere atThere
    have number {k : Nat} {fragment : Fragment} {line : Placed} (found : kept[k]? = some fragment)
        (visible : (shown (last.close { kind := .math }).segments)[k]? = some line)
        : fragment.placed.number = numbers.getD line.number 0
          ∧ line.number < numbers.length := by
      have at_k := congrArg (·[k]?) same
      simp only [List.getElem?_map, visible, Option.map_some, kept] at at_k found
      rw [found] at at_k
      refine ⟨congrArg Placed.number (Option.some.inj at_k), aligned ▸ ?_⟩
      exact number_lt_of_mem_shown (List.mem_of_getElem? visible)
    obtain ⟨firstNumber, firstBelow⟩ := number atFirst atHere
    obtain ⟨secondNumber, secondBelow⟩ := number atSecond atThere
    have distinct : numbers.Nodup := increasing.imp fun less => Nat.ne_of_lt less
    rw [← number_eq_iff (fragments_inOrder order atFirst atSecond), firstNumber, secondNumber,
      List.getD_inj firstBelow secondBelow distinct]

/-- A comment is left out, and literal text that looks like a comment stays. -/
theorem parse_conserves_literal_percent
    : ∃ (registry : Registry) (s : Text) (segments : List Segment),
        s = "%a\n\\begin\x7bprint\x7d%b\\end\x7bprint\x7dc".toList
        ∧ parse registry s = .ok segments
        ∧ segments.flatMap (·.lines) = ["%b".toList, "c".toList]
        ∧ (shown segments).map (·.kind) = [.print, .math] := by
  let registry : Registry := { rules := { ignored := [.comment] } }
  let s : Text := "%a\n\\begin\x7bprint\x7d%b\\end\x7bprint\x7dc".toList
  obtain ⟨segments, parsed⟩ : ∃ segments, parse registry s = .ok segments := by
    have succeeds : (parse registry s).toOption.isSome = true := by decide +kernel
    cases result : parse registry s with
    | ok segments => exact ⟨segments, rfl⟩
    | error => simp [result, Except.toOption] at succeeds
  obtain ⟨lines, -, kinds, -⟩ := parse_conserves_content parsed
  exact ⟨registry, s, segments, rfl, parsed, lines.trans (by decide +kernel),
    kinds.trans (by decide +kernel)⟩

end Document

end LatexFigures
