import LatexFigures.Proofs.Text.Cutting
import LatexFigures.Rules.Basic

/-! Rules whose form covers some text in any case. Such a rule goes through a text from left to
right: where the form is read it inserts the replacement, and elsewhere it takes one character over.
So joined texts are replaced one by one, as long as nothing is read across the joints.
-/

namespace LatexFigures

variable {form : Form} {s : Text}

-----------------------------------------------------------------------------------------
-- Forms that are not empty
-----------------------------------------------------------------------------------------

namespace Form

/-- The form has a part that is a text, so that it covers at least one character. -/
def isSolid (form : Form) : Bool :=
  form.any fun
    | .text start => !start.isEmpty
    | _ => false

theorem length_pos {n : Nat} {groups : List (Option Text.Group)} (solid : form.isSolid = true)
    (read : form.read? s = some (n, groups))
    : 0 < n := by
  induction form generalizing s n groups with
  | nil => cases solid
  | cons part form ih =>
      simp only [Form.read?, Option.bind_eq_bind, Option.bind_eq_some_iff, Option.pure_def,
        Option.some.injEq, Prod.mk.injEq, Prod.exists] at read
      obtain ⟨length, _, here, more, _, later, rfl, -⟩ := read
      simp only [isSolid, List.any_cons, Bool.or_eq_true] at solid
      rcases solid with first | more'
      · cases part with
        | text start =>
            obtain ⟨-, same⟩ := Option.ite_none_right_eq_some.mp here
            obtain ⟨rfl, -⟩ := Prod.mk.inj (Option.some.inj same)
            have nonempty : start ≠ [] := by simpa using first
            have := List.length_pos_iff.mpr nonempty
            omega
        | _ => cases first
      · have := ih more' later
        omega

theorem read?_nil (solid : form.isSolid = true) : form.read? [] = none := by
  induction form with
  | nil => cases solid
  | cons part form ih =>
      simp only [isSolid, List.any_cons, Bool.or_eq_true] at solid
      rcases solid with first | more
      · cases part with
        | text start =>
            have nonempty : start ≠ [] := by simpa using first
            simp [read?, FormPart.read?, nonempty]
        | _ => cases first
      · cases here : part.read? [] with
        | none => simp [read?, here]
        | some cut => simp [read?, here, ih more]

theorem findFrom?_succ (form : Form) (start : Nat) (s : Text)
    : form.findFrom? (start + 1) s = (form.findFrom? start s).map (·.moved 1) := by
  induction s generalizing start with
  | nil =>
      unfold findFrom?
      cases form.read? [] with
      | none => rfl
      | some cut => simp [Nat.add_comm]
  | cons c s ih =>
      unfold findFrom?
      cases form.read? (c :: s) with
      | none => exact ih (start + 1)
      | some cut => simp [Nat.add_comm]

theorem findFrom?_of_read? {n : Nat} {groups : List (Option Text.Group)}
    (read : form.read? s = some (n, groups)) (start : Nat)
    : form.findFrom? start s
      = some ((Text.Match.mk 0 n (some ⟨0, s.take n⟩ :: groups)).moved start) := by
  unfold findFrom?
  rw [read]

theorem isEmpty_of_findFrom? {start : Nat} {m : Text.Match} (solid : form.isSolid = true)
    (found : form.findFrom? start s = some m)
    : m.isEmpty = false := by
  induction s generalizing start with
  | nil =>
      cases read : form.read? [] with
      | none => simp [findFrom?, read] at found
      | some cut =>
          rw [findFrom?_of_read? read] at found
          obtain rfl := Option.some.inj found
          exact beq_false_of_ne (length_pos solid read).ne'
  | cons c s ih =>
      cases read : form.read? (c :: s) with
      | none =>
          simp only [findFrom?, read] at found
          exact ih found
      | some cut =>
          rw [findFrom?_of_read? read] at found
          obtain rfl := Option.some.inj found
          exact beq_false_of_ne (length_pos solid read).ne'

/-- The form is read at the head of the text: it covers (n) characters, and its groups have these
texts.
-/
def Reads (form : Form) (s : Text) (n : Nat) (texts : List (Option Text)) : Prop :=
  ∃ groups, form.read? s = some (n, groups) ∧ groups.map (·.map Text.Group.text) = texts

end Form

-----------------------------------------------------------------------------------------
-- One match after another
-----------------------------------------------------------------------------------------

/-- Where a part stands in a text does not matter to what is made of the texts of groups. By
induction on what is left behind each match.
-/
theorem Text.replaceFrom_eq_zero (search : Text.Search) (f : List (Option Text) → Text)
    (passed : Nat) (before : Option Char) (adjacent : Bool) (s : Text)
    : Text.replaceFrom search (fun m => f m.texts) passed before adjacent s
      = Text.replaceFrom search (fun m => f m.texts) 0 before adjacent s := by
  induction size : s.length using Nat.strongRecOn generalizing passed before adjacent s with
  | ind n ih =>
      subst size
      rw [replaceFrom, replaceFrom]
      cases found : search before s with
      | none => rfl
      | some m =>
          simp only [Match.texts_moved]
          split
          · rfl
          · rename_i last rest later
            have shorter : rest.length < s.length := by
              have := congrArg List.length later
              simp only [List.length_drop, List.length_cons] at this
              omega
            rw [ih _ shorter (0 + _ + 1) _ _ rest rfl, ih _ shorter (passed + _ + 1) _ _ rest rfl]

namespace Form

section Matches

variable (solid : form.isSolid = true) (f : List (Option Text) → Text)

/-- Without a match all stays. -/
theorem replaceAll_of_none (missing : form.findFrom? 0 s = none)
    : Text.replaceAll form.search (fun m => f m.texts) s = s := by
  rw [Text.replaceAll, Text.replaceFrom]
  simp only [search, missing]

include solid

/-- What stands in front of the first place does not matter. -/
theorem replaceFrom_eq (passed : Nat) (before : Option Char) (adjacent : Bool) (s : Text)
    : Text.replaceFrom form.search (fun m => f m.texts) passed before adjacent s
      = Text.replaceAll form.search (fun m => f m.texts) s := by
  rw [Text.replaceFrom_eq_zero, Text.replaceAll, Text.replaceFrom, Text.replaceFrom]
  simp only [search]
  cases found : form.findFrom? 0 s with
  | none => rfl
  | some m => simp only [isEmpty_of_findFrom? solid found, Bool.and_false]

/-- The first match is replaced, and the search goes on behind it. -/
theorem replaceAll_of_some {m : Text.Match} (found : form.findFrom? 0 s = some m)
    : Text.replaceAll form.search (fun m => f m.texts) s
      = s.take m.start ++ f m.texts
        ++ Text.replaceAll form.search (fun m => f m.texts) (s.drop (m.start + m.length)) := by
  have covers : (m.length == 0) = false := isEmpty_of_findFrom? solid found
  have behind : s.drop (m.start + m.length) = (s.drop (m.start + (m.length - 1))).tail := by
    have positive : m.length ≠ 0 := ne_of_beq_false covers
    rw [List.tail_drop]
    congr 1
    omega
  rw [behind, Text.replaceAll, Text.replaceFrom]
  simp only [search, found, Text.Match.isEmpty, covers, Bool.and_false, Bool.false_eq_true,
    if_false, List.append_nil, Text.Match.texts_moved]
  split
  · rename_i ends
    rw [ends, List.tail_nil, replaceAll_of_none f, List.append_nil]
    simp only [findFrom?, read?_nil solid]
  · rename_i last rest later
    rw [later, List.tail_cons, replaceFrom_eq solid f]

end Matches

end Form

-----------------------------------------------------------------------------------------
-- One place after another
-----------------------------------------------------------------------------------------

/-- Nothing but the texts of groups is looked at. -/
def Replacement.isFixed : Replacement → Bool
  | .literal _ | .template _ => true
  | .function _ => false

theorem TemplatePart.expand_congr {m other : Text.Match} (same : m.texts = other.texts)
    (named? : String → Option Nat)
    : expand named? m = expand named? other := by
  funext part
  cases part with
  | text s => rfl
  | group reference =>
      have texts : m.group? = other.group? := by
        funext index
        rw [Text.Match.group?, Text.Match.group?, same]
      rw [expand, expand, texts]

namespace TextRule

variable {rule : TextRule}

/-- The text that takes the place of groups with these texts. -/
def inserted (rule : TextRule) (texts : List (Option Text)) : Text :=
  rule.replacement.apply [] rule.target.groupNamed?
    ⟨0, 0, texts.map (·.map (Text.Group.mk 0))⟩

/-- Where a match stands does not matter to a fixed replacement. -/
theorem apply_match (fixed : rule.replacement.isFixed = true) (contents : Text) (m : Text.Match)
    : rule.replacement.apply contents rule.target.groupNamed? m = rule.inserted m.texts := by
  unfold inserted
  cases replacement : rule.replacement with
  | literal s => rfl
  | template s =>
      have same : m.texts
          = (Text.Match.mk 0 0 (m.texts.map (·.map (Text.Group.mk 0)))).texts := by
        simp [Text.Match.texts, Function.comp_def]
      exact congrArg (List.flatMap · _) (TemplatePart.expand_congr same _)
  | function f =>
      rw [replacement] at fixed
      cases fixed

/-- The rule looks for a form that covers some text in any case, and inserts what the texts of its
groups tell.
-/
structure LooksFor (rule : TextRule) (form : Form) : Prop where
  target : rule.target = .form form
  solid : form.isSolid = true
  fixed : rule.replacement.isFixed = true

variable (looks : rule.LooksFor form)
include looks

theorem apply_eq (s : Text)
    : rule.apply s = Text.replaceAll form.search (fun m => rule.inserted m.texts) s := by
  have search : rule.target.search = form.search := by rw [looks.target]; rfl
  rw [apply, search]
  exact congrArg (Text.replaceAll form.search · s) (funext (apply_match looks.fixed s))

theorem apply_nil : rule.apply [] = [] := by
  rw [apply_eq looks, Form.replaceAll_of_none]
  simp only [Form.findFrom?, Form.read?_nil looks.solid]

/-- Where the form can be read, its replacement is inserted. -/
theorem apply_of_reads {n : Nat} {texts : List (Option Text)} (reads : form.Reads s n texts)
    : rule.apply s = rule.inserted (some (s.take n) :: texts) ++ rule.apply (s.drop n) := by
  obtain ⟨groups, read, rfl⟩ := reads
  have found := Form.findFrom?_of_read? read 0
  rw [apply_eq looks, apply_eq looks, Form.replaceAll_of_some looks.solid _ found,
    Text.Match.texts_moved]
  simp [Text.Match.texts, Text.Match.moved]

/-- Where the form cannot be read, one character is taken over. -/
theorem apply_cons {c : Char} (unread : form.read? (c :: s) = none)
    : rule.apply (c :: s) = c :: rule.apply s := by
  have search : form.findFrom? 0 (c :: s) = (form.findFrom? 0 s).map (·.moved 1) := by
    rw [Form.findFrom?, unread]
    exact form.findFrom?_succ 0 s
  rw [apply_eq looks, apply_eq looks]
  cases found : form.findFrom? 0 s with
  | none =>
      rw [found] at search
      rw [Form.replaceAll_of_none _ search, Form.replaceAll_of_none _ found]
  | some m =>
      rw [found] at search
      rw [Form.replaceAll_of_some looks.solid _ search, Form.replaceAll_of_some looks.solid _ found,
        Text.Match.texts_moved]
      simp [Text.Match.moved, Nat.add_comm 1, Nat.add_right_comm]

end TextRule

-----------------------------------------------------------------------------------------
-- Templates
-----------------------------------------------------------------------------------------

namespace TemplatePart

/-- Text without a dollar sign stands for itself. -/
theorem readFrom_append (plain : '$' ∉ s) (rest : Text)
    : readFrom 0 (s ++ rest) = s.map (fun c => .text [c]) ++ readFrom 0 rest := by
  induction s with
  | nil => rfl
  | cons c s ih =>
      simp only [List.mem_cons, not_or] at plain
      rw [List.cons_append, List.map_cons, List.cons_append, ← ih plain.2]
      exact readFrom.eq_5 _ _ (fun _ same _ => plain.1 same.symm) fun same => plain.1 same.symm

theorem flatMap_expand_text (named? : String → Option Nat) (m : Text.Match) (s : Text)
    : (s.map fun c => TemplatePart.text [c]).flatMap (expand named? m) = s := by
  induction s with
  | nil => rfl
  | cons c s ih => rw [List.map_cons, List.flatMap_cons, ih]; rfl

/-- A template with one group stands for the text of that group, between the texts around it. -/
theorem expand_group {before after : Text} (plain : '$' ∉ before) (plain' : '$' ∉ after)
    (named? : String → Option Nat) (whole inner : Text)
    : (read (before ++ "$\x7b1\x7d".toList ++ after)).flatMap
        (expand named? ⟨0, 0, [some ⟨0, whole⟩, some ⟨0, inner⟩]⟩)
      = before ++ inner ++ after := by
  have parts : read (before ++ "$\x7b1\x7d".toList ++ after)
      = before.map (fun c => .text [c]) ++ .group ['1'] :: after.map (fun c => .text [c]) := by
    have reference : readFrom 0 ("$\x7b1\x7d".toList ++ after)
        = .group ['1'] :: readFrom 0 (after ++ []) := by
      rw [List.append_nil]
      rfl
    rw [read, List.append_assoc, readFrom_append plain, reference, readFrom_append plain']
    simp [readFrom]
  rw [parts, List.flatMap_append, List.flatMap_cons, flatMap_expand_text, flatMap_expand_text,
    List.append_assoc]
  rfl

end TemplatePart

-----------------------------------------------------------------------------------------
-- Reading forms
-----------------------------------------------------------------------------------------

namespace FormPart

theorem read?_text (start rest : Text)
    : (FormPart.text start).read? (start ++ rest) = some (start.length, []) := by
  simp [read?]

theorem read?_contents (free : '\x7d' ∉ s) (rest : Text)
    : FormPart.contents.read? (s ++ ['\x7d'] ++ rest)
      = some ((s ++ ['\x7d']).length, [some s]) := by
  have cut : Text.splitFirst? '\x7d' (s ++ '\x7d' :: rest) = some (s, rest) :=
    Text.splitFirst?_eq_some_iff.mpr ⟨rfl, free⟩
  simp [read?, cut]

theorem read?_optionalBraces (free : '\x7d' ∉ s) (rest : Text)
    : FormPart.optionalBraces.read? ('\x7b' :: s ++ ['\x7d'] ++ rest)
      = some (('\x7b' :: s ++ ['\x7d']).length, [some ('\x7b' :: s ++ ['\x7d'])]) := by
  have cut : Text.splitFirst? '\x7d' (s ++ '\x7d' :: rest) = some (s, rest) :=
    Text.splitFirst?_eq_some_iff.mpr ⟨rfl, free⟩
  simp [read?, cut]

theorem read?_optionalBraces_of_head (other : s.head? ≠ some '\x7b')
    : FormPart.optionalBraces.read? s = some (0, [none]) := by
  simp only [read?]
  split
  · exact absurd rfl other
  · rfl

theorem read?_number (digits : ∀ c ∈ s, c.isDigit = true) (some : s ≠ []) {rest : Text}
    (ends : ∀ c ∈ rest.head?, c.isDigit = false)
    : FormPart.number.read? (s ++ rest) = .some (s.length, [.some s]) := by
  simp [read?, Text.takeWhile_append digits ends, some]

theorem read?_many {c : Char} (all : ∀ d ∈ s, d = c) {rest : Text}
    (ends : ∀ d ∈ rest.head?, d ≠ c)
    : (FormPart.many c).read? (s ++ rest) = some (s.length, []) := by
  have run : (s ++ rest).takeWhile (· == c) = s :=
    Text.takeWhile_append (fun d inside => beq_iff_eq.mpr (all d inside))
      fun d head => beq_false_of_ne (ends d head)
  rw [read?, run]

end FormPart

/-- A form is read part by part. -/
theorem Form.Reads.append {part : FormPart} {front back rest : Text}
    {texts more : List (Option Text)}
    (here : part.read? (front ++ (back ++ rest)) = some (front.length, texts))
    (later : form.Reads (back ++ rest) back.length more)
    : Form.Reads (part :: form) (front ++ back ++ rest) (front ++ back).length (texts ++ more) := by
  obtain ⟨groups, read, rfl⟩ := later
  refine ⟨_, by simp [Form.read?, here, read]; rfl, ?_⟩
  simp [Function.comp_def, Text.Group.moved]

theorem Form.Reads.singleton {part : FormPart} {front rest : Text} {texts : List (Option Text)}
    (here : part.read? (front ++ rest) = some (front.length, texts))
    : Form.Reads [part] (front ++ rest) front.length texts := by
  refine ⟨_, by simp [Form.read?, here]; rfl, ?_⟩
  simp [Function.comp_def]

-----------------------------------------------------------------------------------------
-- Texts that stay
-----------------------------------------------------------------------------------------

/-- The key begins nowhere in the text, whatever stands behind it. -/
def Text.BeginsNo (key s : Text) : Prop :=
  ∀ back rest, back ≠ [] → back <:+ s → ¬ key <+: back ++ rest

/-- The form can be read nowhere in the text, whatever stands behind it. -/
def Form.Skips (form : Form) (s : Text) : Prop :=
  ∀ back rest, back ≠ [] → back <:+ s → form.read? (back ++ rest) = none

namespace Text.BeginsNo

variable {key front back : Text} {c : Char}

theorem nil : BeginsNo key [] := fun _ _ some suffix => absurd (List.suffix_nil.mp suffix) some

theorem cons (here : ∀ rest, ¬ key <+: c :: s ++ rest) (later : BeginsNo key s)
    : BeginsNo key (c :: s) := by
  intro back rest some suffix
  rcases List.suffix_cons_iff.mp suffix with rfl | behind
  · exact here rest
  · exact later back rest some behind

theorem append (first : BeginsNo key front) (second : BeginsNo key back)
    : BeginsNo key (front ++ back) := by
  induction front with
  | nil => exact second
  | cons c front ih =>
      refine cons (fun rest => ?_) (ih fun more rest some suffix => ?_)
      · have here := first (c :: front) (back ++ rest) (List.cons_ne_nil _ _) List.suffix_rfl
        rwa [← List.append_assoc] at here
      · exact first more rest some (suffix.trans (List.suffix_cons _ _))

theorem flatMap {α : Type} {f : α → Text} {items : List α}
    (each : ∀ item ∈ items, BeginsNo key (f item))
    : BeginsNo key (items.flatMap f) := by
  induction items with
  | nil => exact nil
  | cons item items ih =>
      rw [List.flatMap_cons]
      exact (each item (by simp)).append (ih fun other later => each other (by simp [later]))

theorem of_not_mem (absent : c ∉ s) : BeginsNo (c :: key) s := by
  rintro (_ | ⟨d, back⟩) rest some suffix start
  · exact some rfl
  · obtain ⟨rfl, -⟩ := List.cons_prefix_cons.mp start
    exact absent (suffix.mem (by simp))

/-- Of two keys that differ neither begins where the other one stands. -/
theorem of_apart {mark : Text} (apart : ¬ key <+: mark ∧ ¬ mark <+: key)
    (later : BeginsNo key (mark.tail ++ s))
    : BeginsNo key (mark ++ s) := by
  cases mark with
  | nil => exact absurd (List.nil_prefix) apart.2
  | cons c mark =>
      refine cons (fun rest start => ?_) later
      have both : c :: mark <+: c :: mark ++ s ++ rest :=
        (List.prefix_append _ s).trans (List.prefix_append _ rest)
      rcases List.prefix_or_prefix_of_prefix start both with inside | around
      · exact apart.1 inside
      · exact apart.2 around

/-- A text holds nothing that begins with the key. -/
theorem holds_eq_false {mark : Text} (none : BeginsNo key s) (some : key ≠ [])
    (start : key <+: mark)
    : Text.holds mark s = false := by
  induction s with
  | nil =>
      have nonempty : mark ≠ [] := fun empty => some (List.prefix_nil.mp (empty ▸ start))
      simpa [Text.holds] using nonempty
  | cons c s ih =>
      have here := none (c :: s) [] (List.cons_ne_nil _ _) List.suffix_rfl
      have later : BeginsNo key s := fun back rest some suffix =>
        none back rest some (suffix.trans (List.suffix_cons _ _))
      rw [Text.holds, ih later, Bool.or_false, ← Bool.not_eq_true, List.isPrefixOf_iff_prefix]
      intro begins
      exact here (by simpa using start.trans begins)

end Text.BeginsNo

namespace Form

variable {key : Text}

theorem read?_text_eq_none (absent : ¬ key <+: s) : Form.read? (.text key :: form) s = none := by
  simp [Form.read?, FormPart.read?, absent]

theorem skips_text (none : Text.BeginsNo key s) : Form.Skips (.text key :: form) s :=
  fun back rest some suffix => read?_text_eq_none (none back rest some suffix)

theorem read?_many_eq_none {c : Char} (unread : form.read? (s.dropWhile (· == c)) = none)
    : Form.read? (.many c :: form) s = none := by
  have behind : s.drop (s.takeWhile (· == c)).length = s.dropWhile (· == c) := by
    clear unread
    induction s with
    | nil => rfl
    | cons d s ih => by_cases same : d == c <;> simp_all
  simp [Form.read?, FormPart.read?, behind, unread]

/-- Characters in front of the key do not help, unless the text ends in them. -/
theorem skips_many {c : Char} (none : Text.BeginsNo key s) (last : s.getLast? ≠ some c)
    : Form.Skips (.many c :: .text key :: form) s := by
  intro back rest nonempty suffix
  have stops : back.dropWhile (· == c) ≠ [] := by
    intro all
    have same : back.getLast nonempty = c := by
      simpa using List.dropWhile_eq_nil_iff.mp all _ (List.getLast_mem nonempty)
    obtain ⟨front, rfl⟩ := suffix
    exact last (by rw [List.getLast?_append_of_ne_nil _ nonempty,
      List.getLast?_eq_some_getLast nonempty, same])
  have behind : (back ++ rest).dropWhile (· == c) = back.dropWhile (· == c) ++ rest := by
    rw [List.dropWhile_append, if_neg (by simpa using stops)]
  apply read?_many_eq_none
  rw [behind]
  exact read?_text_eq_none (none _ rest stops ((List.dropWhile_suffix _).trans suffix))

end Form

namespace TextRule

variable {rule : TextRule} (looks : rule.LooksFor form)
include looks

/-- A text in which nothing can be read is taken over. -/
theorem apply_append (skips : form.Skips s) (rest : Text)
    : rule.apply (s ++ rest) = s ++ rule.apply rest := by
  induction s with
  | nil => rfl
  | cons c s ih =>
      have unread := skips (c :: s) rest (List.cons_ne_nil _ _) List.suffix_rfl
      have later : form.Skips s := fun back rest some suffix =>
        skips back rest some (suffix.trans (List.suffix_cons _ _))
      rw [List.cons_append] at unread ⊢
      rw [apply_cons looks unread, ih later]
      rfl

/-- A text in which the form can be read nowhere stays. -/
theorem apply_of_unread (unread : ∀ back, back <:+ s → form.read? back = none)
    : rule.apply s = s := by
  induction s with
  | nil => exact apply_nil looks
  | cons c s ih =>
      rw [apply_cons looks (unread _ List.suffix_rfl),
        ih fun back suffix => unread back (suffix.trans (List.suffix_cons _ _))]

omit looks in
/-- A rule whose key holds a character that the text does not changes nothing. -/
theorem apply_of_not_mem {key : Text} {c : Char} (inKey : c ∈ key)
    (keyed : rule.LooksFor (.text key :: form)) (absent : c ∉ s)
    : rule.apply s = s :=
  apply_of_unread keyed fun _ suffix => Form.read?_text_eq_none fun start =>
    absent (suffix.mem (start.mem inKey))

/-- Joined texts are replaced one by one where each of them is, in front of any text that (behind)
holds of.
-/
theorem apply_flatMap {α : Type} {before after : α → Text} {items : List α}
    (behind : Text → Prop) (nothing : behind [])
    (each : ∀ item ∈ items, ∀ rest, behind rest
      → behind (before item ++ rest)
        ∧ rule.apply (before item ++ rest) = after item ++ rule.apply rest)
    : rule.apply (items.flatMap before) = items.flatMap after := by
  have both : behind (items.flatMap before)
      ∧ rule.apply (items.flatMap before) = items.flatMap after := by
    induction items with
    | nil => exact ⟨nothing, apply_nil looks⟩
    | cons item items ih =>
        obtain ⟨fits, same⟩ := ih fun other later => each other (by simp [later])
        obtain ⟨fits, step⟩ := each item (by simp) _ fits
        exact ⟨fits, by rw [List.flatMap_cons, step, same, List.flatMap_cons]⟩
  exact both.2

end TextRule

-----------------------------------------------------------------------------------------
-- Headers
-----------------------------------------------------------------------------------------

/-- Without the beginning of a mark there is no header. -/
theorem HeaderRule.apply_of_beginsNo (header : HeaderRule) {contents : Text}
    (opening : Text.BeginsNo "\\begin\x7b".toList s)
    (closing : Text.BeginsNo "\\end\x7b".toList s)
    : header.apply s contents = contents := by
  have noEnd : Text.holds (endMark header.name) s = false :=
    closing.holds_eq_false (by decide) ((List.prefix_append _ _).trans (List.prefix_append _ _))
  have noBegin : Text.holds (beginMark header.name) s = false :=
    opening.holds_eq_false (by decide) ((List.prefix_append _ _).trans (List.prefix_append _ _))
  unfold HeaderRule.apply
  simp only [noEnd, noBegin, Bool.false_eq_true, if_false]

end LatexFigures
