import Mathlib.Data.List.SplitBy
import LatexFigures.Proofs.Rules.Macros

/-! Runs of dashes and quotation marks. Each of their rules replaces a number of equal characters, as
often as a run has them, and leaves the remainder to the rules behind it; the characters of other
runs are no marks to it. As no html holds marks, a text without macros is replaced run by run.
-/

namespace LatexFigures

-----------------------------------------------------------------------------------------
-- Runs
-----------------------------------------------------------------------------------------

namespace Text

variable {c : Char} {rest : Text}

/-- The maximal runs of equal characters, in their order. -/
def runs (s : Text) : List Text := s.splitBy (· == ·)

theorem runs_replicate_append (k : Nat) (ends : rest.head? ≠ some c)
    : runs (List.replicate (k + 1) c ++ rest) = List.replicate (k + 1) c :: runs rest := by
  have single : runs (List.replicate (k + 1) c) = [List.replicate (k + 1) c] :=
    List.splitBy_of_isChain (by simp) (List.isChain_replicate_of_rel _ (beq_self_eq_true c))
  have apart : ∀ x ∈ (List.replicate (k + 1) c).getLast?, ∀ y ∈ rest.head?, (x == y) = false := by
    intro x last y head
    obtain rfl := List.eq_of_mem_replicate (List.mem_of_getLast? last)
    exact beq_false_of_ne fun same => ends (same ▸ head)
  rw [runs, List.splitBy_append apart]
  exact congrArg (· ++ runs rest) single

/-- A text is empty, or a run and a text that does not go on with its character. -/
theorem runs_induction {motive : Text → Prop} (nil : motive [])
    (run : ∀ (c : Char) (k : Nat) (rest : Text), rest.head? ≠ some c → motive rest
      → motive (List.replicate (k + 1) c ++ rest))
    (s : Text)
    : motive s := by
  induction length : s.length using Nat.strong_induction_on generalizing s with
  | _ n ih =>
      cases s with
      | nil => exact nil
      | cons c more =>
          have front : more.takeWhile (· == c)
              = List.replicate (more.takeWhile (· == c)).length c :=
            List.eq_replicate_of_mem fun d inside => by
              simpa using List.mem_takeWhile_imp inside
          have ends : (more.dropWhile (· == c)).head? ≠ some c := by
            have := List.head?_dropWhile_not (· == c) more
            intro head
            simp [head] at this
          have shorter : (more.dropWhile (· == c)).length < n := by
            have := (List.dropWhile_sublist (l := more) (· == c)).length_le
            rw [List.length_cons] at length
            omega
          have step := run c (more.takeWhile (· == c)).length _ ends (ih _ shorter _ rfl)
          rwa [List.replicate_succ, ← front, List.cons_append, List.takeWhile_append_dropWhile]
            at step

end Text

namespace TextRules

-----------------------------------------------------------------------------------------
-- One rule
-----------------------------------------------------------------------------------------

/-- A rule that replaces a number of equal characters. -/
structure Shortening where
  name : String
  mark : Char
  count : Nat
  html : String
  positive : 0 < count
  visible : html.toList ≠ []

/-- The same text several times. -/
def copies (n : Nat) (html : String) : Text := (List.replicate n html.toList).flatten

theorem mem_copies {c : Char} {n : Nat} {html : String} (inside : c ∈ copies n html)
    : c ∈ html.toList := by
  obtain ⟨part, member, inside⟩ := List.mem_flatten.mp inside
  rwa [List.eq_of_mem_replicate member] at inside

namespace Shortening

variable (t : Shortening) {c : Char} {k : Nat} {s rest : Text}

def key : Text := List.replicate t.count t.mark

def rule : TextRule := literalRule t.name [.text t.key] t.html

theorem mark_mem_key : t.mark ∈ t.key := by
  rw [key, List.mem_replicate]
  exact ⟨t.positive.ne', rfl⟩

theorem looksFor : t.rule.LooksFor [.text t.key] where
  target := rfl
  solid := by
    have nonempty : t.key ≠ [] := List.ne_nil_of_mem t.mark_mem_key
    simpa [Form.isSolid] using nonempty
  fixed := rfl

/-- A text without the mark is taken over. -/
theorem apply_append (absent : t.mark ∉ s) (rest : Text)
    : t.rule.apply (s ++ rest) = s ++ t.rule.apply rest := by
  obtain ⟨k, count⟩ := Nat.exists_eq_succ_of_ne_zero t.positive.ne'
  have key : t.key = t.mark :: List.replicate k t.mark := by
    rw [Shortening.key, count, List.replicate_succ]
  refine TextRule.apply_append t.looksFor (Form.skips_text ?_) rest
  rw [key]
  exact .of_not_mem absent

theorem not_key_prefix (few : k < t.count) (ends : rest.head? ≠ some t.mark)
    : ¬ t.key <+: List.replicate k t.mark ++ rest := by
  have key : t.key = List.replicate k t.mark ++ List.replicate (t.count - k) t.mark := by
    rw [List.replicate_append_replicate, Nat.add_sub_cancel' few.le, Shortening.key]
  rw [key, List.prefix_append_right_inj]
  intro start
  obtain ⟨more, missing⟩ := Nat.exists_eq_succ_of_ne_zero (Nat.sub_ne_zero_of_lt few)
  rw [missing, List.replicate_succ] at start
  obtain ⟨tail, rfl⟩ := start
  exact ends rfl

/-- A run that is too short is taken over. -/
theorem apply_short (few : k < t.count) (ends : rest.head? ≠ some t.mark)
    : t.rule.apply (List.replicate k t.mark ++ rest)
      = List.replicate k t.mark ++ t.rule.apply rest := by
  induction k with
  | zero => rfl
  | succ k ih =>
      have unread : Form.read? [.text t.key] (List.replicate (k + 1) t.mark ++ rest) = none :=
        Form.read?_text_eq_none (t.not_key_prefix few ends)
      rw [List.replicate_succ, List.cons_append] at unread ⊢
      rw [TextRule.apply_cons t.looksFor unread, ih (by omega), List.cons_append]

/-- The key is replaced, and the rule goes on behind it. -/
theorem apply_key (rest : Text)
    : t.rule.apply (t.key ++ rest) = t.html.toList ++ t.rule.apply rest := by
  have reads := Form.Reads.singleton (FormPart.read?_text t.key rest)
  rw [TextRule.apply_of_reads t.looksFor reads, List.drop_left]
  rfl

/-- A run of several keys and a remainder, by induction on the keys. -/
theorem apply_keys (n : Nat) (few : k < t.count) (ends : rest.head? ≠ some t.mark)
    : t.rule.apply (List.replicate (t.count * n + k) t.mark ++ rest)
      = copies n t.html ++ (List.replicate k t.mark ++ t.rule.apply rest) := by
  induction n with
  | zero =>
      rw [Nat.mul_zero, Nat.zero_add]
      exact t.apply_short few ends
  | succ n ih =>
      have first : List.replicate (t.count * (n + 1) + k) t.mark
          = t.key ++ List.replicate (t.count * n + k) t.mark := by
        rw [key, List.replicate_append_replicate, Nat.mul_succ]
        congr 1
        omega
      rw [first, List.append_assoc, apply_key, ih, copies, copies, List.replicate_succ,
        List.flatten_cons, List.append_assoc]

/-- A run is replaced as often as it has the key, and its remainder is taken over. -/
theorem apply_run (ends : rest.head? ≠ some t.mark) (k : Nat)
    : t.rule.apply (List.replicate k t.mark ++ rest)
      = copies (k / t.count) t.html
        ++ (List.replicate (k % t.count) t.mark ++ t.rule.apply rest) := by
  have whole := t.apply_keys (k / t.count) (Nat.mod_lt k t.positive) ends
  rwa [Nat.div_add_mod] at whole

/-- No text begins with a character that neither it nor the html began with before. -/
theorem head?_apply_ne (absent : c ∉ t.html.toList) (other : s.head? ≠ some c)
    : (t.rule.apply s).head? ≠ some c := by
  cases s with
  | nil =>
      rw [TextRule.apply_nil t.looksFor]
      exact other
  | cons d s =>
      by_cases start : t.key <+: d :: s
      · obtain ⟨rest, same⟩ := start
        rw [← same, apply_key, List.head?_append_of_ne_nil _ t.visible]
        exact fun head => absent (List.mem_of_head? head)
      · rw [TextRule.apply_cons t.looksFor (Form.read?_text_eq_none start)]
        exact other

end Shortening

-----------------------------------------------------------------------------------------
-- One rule after another
-----------------------------------------------------------------------------------------

/-- Applies rules one after another. -/
def substitute (rules : List Shortening) (s : Text) : Text :=
  (rules.map Shortening.rule).foldl (fun contents rule => rule.apply contents) s

/-- What rules make of a run: each takes its share and leaves the remainder. -/
def shorten : List Shortening → Char → Nat → Text
  | [], c, k => List.replicate k c
  | t :: rules, c, k =>
      if t.mark = c then copies (k / t.count) t.html ++ shorten rules c (k % t.count)
      else shorten rules c k

/-- No html holds marks, so that no rule sees what another one has inserted. -/
def AreApart (rules : List Shortening) : Prop :=
  ∀ t ∈ rules, ∀ u ∈ rules, t.mark ∉ u.html.toList

section Substitution

variable {rules : List Shortening} {c : Char} {s rest : Text}

theorem AreApart.tail {t : Shortening} (apart : AreApart (t :: rules)) : AreApart rules :=
  fun u member v member' => apart u (.tail _ member) v (.tail _ member')

theorem substitute_cons (t : Shortening) (rules : List Shortening) (s : Text)
    : substitute (t :: rules) s = substitute rules (t.rule.apply s) :=
  rfl

theorem substitute_nil (rules : List Shortening) : substitute rules [] = [] := by
  rw [substitute, List.foldl_map]
  exact List.foldl_fixed' (fun t => TextRule.apply_nil t.looksFor) rules

theorem substitute_append (absent : ∀ t ∈ rules, t.mark ∉ s) (rest : Text)
    : substitute rules (s ++ rest) = s ++ substitute rules rest := by
  induction rules generalizing rest with
  | nil => rfl
  | cons t rules ih =>
      rw [substitute_cons, substitute_cons, t.apply_append (absent t (.head _)),
        ih fun u member => absent u (.tail _ member)]

/-- A text without marks stays. -/
theorem substitute_of_not_mem (absent : ∀ t ∈ rules, t.mark ∉ s) : substitute rules s = s := by
  have whole := substitute_append absent []
  rwa [substitute_nil, List.append_nil] at whole

/-- Rules turn the first run into what they make of it alone, by induction on the rules. A rule does
not make the text behind a run begin with the mark of another one, so the run gets no longer.
-/
theorem substitute_run (apart : AreApart rules)
    (ends : ∀ t ∈ rules, t.mark = c → rest.head? ≠ some c) (k : Nat)
    : substitute rules (List.replicate k c ++ rest)
      = shorten rules c k ++ substitute rules rest := by
  induction rules generalizing k rest with
  | nil => rfl
  | cons t rules ih =>
      have free (u : Shortening) (member : u ∈ rules) : u.mark ∉ t.html.toList :=
        apart u (.tail _ member) t (.head _)
      have behind : ∀ u ∈ rules, u.mark = c → (t.rule.apply rest).head? ≠ some c := by
        rintro u member rfl
        exact t.head?_apply_ne (free u member) (ends u (.tail _ member) rfl)
      rw [substitute_cons, substitute_cons, shorten]
      split
      · rename_i own
        subst own
        have inserted : ∀ u ∈ rules, u.mark ∉ copies (k / t.count) t.html := fun u member inside =>
          free u member (mem_copies inside)
        rw [t.apply_run (ends t (.head _) rfl), substitute_append inserted, ih apart.tail behind,
          List.append_assoc]
      · rename_i other
        have foreign : t.mark ∉ List.replicate k c := fun inside =>
          other (List.eq_of_mem_replicate inside)
        rw [t.apply_append foreign, ih apart.tail behind]

/-- Rules work run by run. -/
theorem substitute_eq_flatMap (apart : AreApart rules) {f : Text → Text}
    (each : ∀ c k, f (List.replicate (k + 1) c) = shorten rules c (k + 1)) (s : Text)
    : substitute rules s = (Text.runs s).flatMap f := by
  induction s using Text.runs_induction with
  | nil => exact substitute_nil rules
  | run c k rest ends ih =>
      rw [substitute_run apart (fun _ _ _ => ends), ih, Text.runs_replicate_append k ends,
        List.flatMap_cons, each]

theorem mem_shorten {d : Char} {k : Nat} (inside : d ∈ shorten rules c k)
    : d = c ∨ ∃ t ∈ rules, d ∈ t.html.toList := by
  induction rules generalizing k with
  | nil => exact .inl (List.eq_of_mem_replicate inside)
  | cons t rules ih =>
      have later {k : Nat} (inside : d ∈ shorten rules c k)
          : d = c ∨ ∃ t' ∈ t :: rules, d ∈ t'.html.toList :=
        (ih inside).imp_right fun ⟨u, member, shown⟩ => ⟨u, .tail _ member, shown⟩
      rw [shorten] at inside
      split at inside
      · rcases List.mem_append.mp inside with inserted | remainder
        · exact .inr ⟨t, .head _, mem_copies inserted⟩
        · exact later remainder
      · exact later inside

/-- All characters come from the text or from the html of some rule. -/
theorem mem_substitute (apart : AreApart rules) (inside : c ∈ substitute rules s)
    : c ∈ s ∨ ∃ t ∈ rules, c ∈ t.html.toList := by
  induction s using Text.runs_induction with
  | nil =>
      rw [substitute_nil] at inside
      cases inside
  | run d k rest ends ih =>
      rw [substitute_run apart (fun _ _ _ => ends)] at inside
      rcases List.mem_append.mp inside with run | behind
      · refine (mem_shorten run).imp_left fun same => ?_
        exact List.mem_append_left rest (List.mem_replicate.mpr ⟨k.succ_ne_zero, same⟩)
      · exact (ih behind).imp_left (List.mem_append_right _)

end Substitution

-----------------------------------------------------------------------------------------
-- Dashes and quotation marks
-----------------------------------------------------------------------------------------

/-- What less than three dashes are replaced by. -/
def shortDashes : Nat → Text
  | 0 => []
  | 1 => ['-']
  | _ => "&ndash;".toList

/-- What a maximal run of equal characters is replaced by. Three dashes make a long one, and what is
left of them is a short dash or a hyphen; two quotation marks make one. All other runs stay.
-/
def typesetRun (run : Text) : Text :=
  let n := run.length
  match run.head? with
  | some '-' => copies (n / 3) "&mdash;" ++ shortDashes (n % 3)
  | some '`' => copies (n / 2) "&ldquo;" ++ (if n % 2 = 1 then ['`'] else [])
  | some '\'' => copies (n / 2) "&rdquo;" ++ (if n % 2 = 1 then ['\''] else [])
  | _ => run

/-- The rules for dashes and quotation marks. -/
def shortenings : List Shortening :=
  [ ⟨"mdash", '-', 3, "&mdash;", by decide, by decide⟩,
    ⟨"ndash", '-', 2, "&ndash;", by decide, by decide⟩,
    ⟨"openq", '`', 2, "&ldquo;", by decide, by decide⟩,
    ⟨"closeq", '\'', 2, "&rdquo;", by decide, by decide⟩ ]

theorem foldl_dashes_eq (s : Text)
    : dashes.foldl (fun contents rule => rule.apply contents) s = substitute shortenings s :=
  rfl

theorem areApart_shortenings : AreApart shortenings := by
  unfold AreApart
  decide +kernel

theorem shortDashes_eq {n : Nat} (few : n < 3)
    : shortDashes n = copies (n / 2) "&ndash;" ++ List.replicate (n % 2) '-' := by
  match n, few with
  | 0, _ | 1, _ | 2, _ => rfl

/-- Nothing or one is left of pairs. -/
theorem replicate_mod_two (n : Nat) (c : Char)
    : List.replicate (n % 2) c = if n % 2 = 1 then [c] else [] := by
  rcases Nat.mod_two_eq_zero_or_one n with even | odd
  · rw [even]
    rfl
  · rw [odd]
    rfl

theorem typesetRun_replicate (c : Char) (k : Nat)
    : typesetRun (List.replicate (k + 1) c) = shorten shortenings c (k + 1) := by
  unfold typesetRun
  simp only [List.length_replicate, List.head?_replicate, Nat.succ_ne_zero, if_false]
  split
  · rename_i dash
    obtain rfl := Option.some.inj dash
    simp [shorten, shortenings, shortDashes_eq (Nat.mod_lt (k + 1) (by decide : 0 < 3))]
  · rename_i quote
    obtain rfl := Option.some.inj quote
    simp [shorten, shortenings, replicate_mod_two]
  · rename_i quote
    obtain rfl := Option.some.inj quote
    simp [shorten, shortenings, replicate_mod_two]
  · rename_i noDash noOpening noClosing
    simp only [Option.some.injEq] at noDash noOpening noClosing
    simp [shorten, shortenings, Ne.symm noDash, Ne.symm noOpening, Ne.symm noClosing]

/-- Runs of dashes and quotation marks are replaced wherever they stand, and however long they are:
a text without backslashes and hats is replaced run by run, and all but these marks stays.
-/
theorem standard_apply_runs {s : Text} (noBackslash : '\\' ∉ s) (noHat : '^' ∉ s)
    : standard.apply s = (Text.runs s).flatMap typesetRun := by
  have html {c : Char} (hidden : ∀ t ∈ shortenings, c ∉ t.html.toList) (absent : c ∉ s)
      : c ∉ substitute shortenings s := fun inside =>
    (mem_substitute areApart_shortenings inside).elim absent
      fun ⟨t, member, shown⟩ => hidden t member shown
  have noMacro : '\\' ∉ substitute shortenings s := html (by decide +kernel) noBackslash
  have noPower : '^' ∉ substitute shortenings s := html (by decide +kernel) noHat
  have macros (kinds : List Macro) {contents : Text} (absent : '\\' ∉ contents)
      : (kinds.map Macro.rule).foldl (fun contents rule => rule.apply contents) contents
        = contents := by
    rw [List.foldl_map]
    exact List.foldl_fixed' (fun m => m.apply_of_not_mem absent) kinds
  have noMark {name : Text} : Text.BeginsNo ('\\' :: name) s := .of_not_mem noBackslash
  rw [standard_apply_eq fun header _ => header.apply_of_beginsNo noMark noMark]
  rw [macros _ noBackslash, foldl_dashes_eq, Macro.apply_of_not_mem _ noMacro,
    Macro.apply_of_not_mem _ noMacro, macros _ noMacro, euler_apply noPower]
  exact substitute_eq_flatMap areApart_shortenings typesetRun_replicate s

/-- Seven dashes are two long ones and a hyphen, four a long one and a hyphen, and five a long one
and a short one; of three quotation marks one is left, also next to others and to braces.
-/
theorem standard_apply_runs_of_marks
    : let s : Text := "-------a ---- -----```x\x7b'''\x7d-`'".toList
      '\\' ∉ s
      ∧ '^' ∉ s
      ∧ standard.apply s
        = "&mdash;&mdash;-a &mdash;- &mdash;&ndash;&ldquo;`x\x7b&rdquo;'\x7d-`'".toList := by
  intro s
  have noBackslash : '\\' ∉ s := by decide +kernel
  have noHat : '^' ∉ s := by decide +kernel
  refine ⟨noBackslash, noHat, ?_⟩
  rw [standard_apply_runs noBackslash noHat]
  decide +kernel

end TextRules

end LatexFigures
