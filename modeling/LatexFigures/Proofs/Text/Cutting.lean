import Mathlib.Data.List.Basic
import Mathlib.Data.List.DropRight
import LatexFigures.Text.Basic

/-! Cutting a text loses nothing: the parts, with what was cut away between them, are the text
again.
-/

namespace LatexFigures.Text

/-- What follows (start) is what completes it to the whole text. -/
theorem after?_eq_some_iff {start s rest : Text}
    : after? start s = some rest ↔ start ++ rest = s :=
  List.isPrefixOf?_eq_some_iff_append_eq

/-- Nothing follows (start) exactly if the text does not begin with it. -/
theorem after?_eq_none_iff {start s : Text} : after? start s = none ↔ ¬ start <+: s := by
  simp only [Option.eq_none_iff_forall_not_mem, Option.mem_def, after?_eq_some_iff,
    List.prefix_iff_exists_append_eq, not_exists]

/-- A start of two parts is taken off part by part. -/
theorem after?_append (start more s : Text)
    : after? (start ++ more) s = (after? start s).bind (after? more) := by
  induction start generalizing s with
  | nil => simp [after?, List.isPrefixOf?]
  | cons c start ih =>
      cases s with
      | nil => rfl
      | cons d s =>
          simp only [after?, List.cons_append, List.isPrefixOf?] at ih ⊢
          split
          · exact ih s
          · rfl

/-- The parts around the first mark, with the mark between them, are the whole text, and the
first part is free of it. By induction on the text.
-/
theorem splitFirst?_eq_some_iff {mark : Char} {s before after : Text}
    : splitFirst? mark s = some (before, after)
      ↔ before ++ mark :: after = s ∧ mark ∉ before := by
  induction s generalizing before with
  | nil => simp [splitFirst?]
  | cons c rest ih =>
      by_cases here : c = mark
      · subst here
        cases before with
        | nil => simp [splitFirst?, eq_comm]
        | cons b before => simp +contextual [splitFirst?, eq_comm]
      · simp only [splitFirst?, here, if_false, Option.map_eq_some_iff, Prod.exists,
          Prod.mk.injEq]
        cases before with
        | nil => simp [Ne.symm here]
        | cons b before =>
            constructor
            · intro h
              obtain ⟨inner, behind, found, same, rfl⟩ := h
              obtain ⟨rfl, rfl⟩ := List.cons.inj same
              obtain ⟨whole, absent⟩ := ih.mp found
              exact ⟨by simp [whole], by simp [absent, Ne.symm here]⟩
            · intro h
              obtain ⟨whole, absent⟩ := h
              obtain ⟨rfl, tail⟩ := List.cons.inj whole
              exact ⟨before, after, ih.mpr ⟨tail, fun inside => absent (by simp [inside])⟩,
                rfl, rfl⟩

theorem splitFirst?_eq_none_iff {mark : Char} {s : Text} : splitFirst? mark s = none ↔ mark ∉ s := by
  induction s with
  | nil => simp [splitFirst?]
  | cons c s ih =>
      by_cases here : c = mark
      · simp [splitFirst?, here]
      · simp [splitFirst?, here, ih, Ne.symm here]

/-- The first mark cuts a text in one way. -/
theorem eq_of_append_cons_eq {mark : Char} {before other after rest : Text}
    (free : mark ∉ before) (freeOther : mark ∉ other)
    (same : before ++ mark :: after = other ++ mark :: rest)
    : before = other ∧ after = rest := by
  have cut : splitFirst? mark (before ++ mark :: after) = some (before, after) :=
    splitFirst?_eq_some_iff.mpr ⟨rfl, free⟩
  have again : splitFirst? mark (before ++ mark :: after) = some (other, rest) :=
    splitFirst?_eq_some_iff.mpr ⟨same.symm, freeOther⟩
  simpa using cut.symm.trans again

/-- Behind the last mark there is none. -/
theorem splitLast?_append_cons {mark : Char} (before : Text) {after : Text} (free : mark ∉ after)
    : splitLast? mark (before ++ mark :: after) = some (before, after) := by
  induction before with
  | nil =>
      have none : splitLast? mark after = none := by
        induction after with
        | nil => rfl
        | cons c after ih =>
            simp only [List.mem_cons, not_or] at free
            rw [splitLast?, ih free.2]
            exact if_neg (Ne.symm free.1)
      simp [splitLast?, none]
  | cons c before ih => rw [List.cons_append, splitLast?, ih]

theorem splitLast?_eq_some {mark : Char} {s before after : Text}
    (cut : splitLast? mark s = some (before, after))
    : before ++ mark :: after = s := by
  induction s generalizing before with
  | nil => nomatch cut
  | cons c rest ih =>
      rw [splitLast?] at cut
      cases later : splitLast? mark rest with
      | some parts =>
          rw [later] at cut
          cases cut
          rw [List.cons_append, ih later]
      | none =>
          rw [later] at cut
          obtain ⟨rfl, same⟩ := Option.ite_none_right_eq_some.mp cut
          cases same
          rfl

/-- A text that ends with a mark has a first one. -/
theorem exists_append_mark_eq (mark : Char) (s : Text)
    : ∃ behind, s ++ [mark] = s.takeWhile (· ≠ mark) ++ mark :: behind := by
  induction s with
  | nil => exact ⟨[], rfl⟩
  | cons c s ih =>
      by_cases here : c = mark
      · subst here
        exact ⟨s ++ [c], by simp⟩
      · obtain ⟨behind, same⟩ := ih
        exact ⟨behind, by simp [here, same]⟩

/-- What is cut off is still cut off with a text behind it. -/
theorem splitFirst?_append_of_some {mark : Char} {s before after : Text}
    (cut : splitFirst? mark s = some (before, after)) (back : Text)
    : splitFirst? mark (s ++ back) = some (before, after ++ back) := by
  obtain ⟨rfl, free⟩ := splitFirst?_eq_some_iff.mp cut
  exact splitFirst?_eq_some_iff.mpr ⟨by simp, free⟩

/-- A text without the mark behind another one changes no cut of that. -/
theorem splitFirst?_append {mark : Char} (s : Text) {back : Text} (free : mark ∉ back)
    : splitFirst? mark (s ++ back)
      = (splitFirst? mark s).map fun (before, after) => (before, after ++ back) := by
  induction s with
  | nil =>
      simpa [splitFirst?] using splitFirst?_eq_none_iff.mpr free
  | cons c s ih =>
      by_cases here : c = mark
      · simp [splitFirst?, here]
      · simp [splitFirst?, here, ih, Function.comp_def]

/-- A text that ends with a character of which it holds no other does not overlap itself: in front
of itself it is found as a part of what precedes, or not at all.
-/
theorem prefix_of_prefix_append {inner front : Text} {last : Char} (fresh : last ∉ inner)
    (nonempty : front ≠ []) (here : inner ++ [last] <+: front ++ (inner ++ [last]))
    : inner ++ [last] <+: front := by
  by_cases fits : (inner ++ [last]).length ≤ front.length
  · exact List.prefix_of_prefix_length_le here (List.prefix_append _ _) fits
  · have longer : front.length ≤ inner.length := by
      simp only [List.length_append, List.length_singleton] at fits
      omega
    have positive : 0 < front.length := List.length_pos_iff.mpr nonempty
    -- the last character stands where the text behind (front) has an inner one
    have at_last : (front ++ (inner ++ [last]))[inner.length]? = some last := by
      rw [List.prefix_iff_getElem?.mp here inner.length (by simp)]
      simp
    rw [List.getElem?_append_right longer, List.getElem?_append_left (by omega)] at at_last
    exact absurd (List.mem_of_getElem? at_last) fresh

/-- A run of characters is taken off where something else follows. -/
theorem takeWhile_append {p : Char → Bool} {run rest : Text} (inside : ∀ c ∈ run, p c = true)
    (ends : ∀ c ∈ rest.head?, p c = false)
    : (run ++ rest).takeWhile p = run := by
  rw [List.takeWhile_append_of_pos inside]
  cases rest with
  | nil => simp
  | cons c rest => simp [ends c rfl]

theorem dropWhile_append {p : Char → Bool} {run rest : Text} (inside : ∀ c ∈ run, p c = true)
    (ends : ∀ c ∈ rest.head?, p c = false)
    : (run ++ rest).dropWhile p = rest := by
  rw [List.dropWhile_append_of_pos inside]
  cases rest with
  | nil => rfl
  | cons c rest => simp [ends c rfl]

/-- What stands first behind a run of characters in joined texts stands first behind it in one of
them.
-/
theorem head_dropWhile_append {p : Char → Bool} {keeps : Char → Prop} {s back : Text}
    (front : ∀ c ∈ (s.dropWhile p).head?, keeps c)
    (behind : ∀ c ∈ back.head?, p c = false ∧ keeps c)
    : ∀ c ∈ ((s ++ back).dropWhile p).head?, keeps c := by
  intro c head
  rw [List.dropWhile_append] at head
  cases start : s.dropWhile p with
  | nil =>
      cases back with
      | nil => simp [start] at head
      | cons b back =>
          obtain ⟨stops, kept⟩ := behind b rfl
          obtain rfl : b = c := by simpa [start, stops] using head
          exact kept
  | cons b rest =>
      rw [start] at front
      exact front c (by simpa [start] using head)

theorem of_mem_takeWhile {p : Char → Bool} {s : Text} {c : Char} (inside : c ∈ s.takeWhile p)
    : p c = true :=
  List.all_eq_true.mp List.all_takeWhile c inside

-----------------------------------------------------------------------------------------
-- Trimming
-----------------------------------------------------------------------------------------

theorem mem_of_mem_dropEndWhile {p : Char → Bool} {s : Text} {c : Char}
    (inside : c ∈ dropEndWhile p s)
    : c ∈ s :=
  List.mem_reverse.mp ((List.dropWhile_sublist p).mem (List.mem_reverse.mp inside))

/-- Nothing is dropped from in front of a character that stays. -/
theorem dropEndWhile_append {p : Char → Bool} {front back : Text}
    (stays : ∀ c ∈ front.getLast?, p c = false)
    : dropEndWhile p (front ++ back) = front ++ dropEndWhile p back := by
  have kept : front.reverse.dropWhile p = front.reverse := by
    rw [← List.head?_reverse] at stays
    cases start : front.reverse with
    | nil => rfl
    | cons c rest => simp [stays c (by rw [start]; rfl)]
  rw [dropEndWhile, List.reverse_append, List.dropWhile_append, dropEndWhile]
  split
  · rename_i nothing
    rw [kept, List.isEmpty_iff.mp nothing]
    simp
  · simp

/-- Only blanks are trimmed. -/
theorem mem_trim {c : Char} (other : isBlank c = false) {s : Text} : c ∈ trim s ↔ c ∈ s := by
  have kept (s : Text) : c ∈ s.dropWhile isBlank ↔ c ∈ s := by
    refine ⟨(List.dropWhile_sublist _).mem, fun inside => ?_⟩
    rw [← List.takeWhile_append_dropWhile (p := isBlank) (l := s)] at inside
    refine (List.mem_append.mp inside).resolve_left fun dropped => ?_
    simp [of_mem_takeWhile dropped] at other
  rw [trim, dropEndWhile, List.mem_reverse, kept, List.mem_reverse, kept]

/-- Trimming cuts blanks off in front and behind, and nothing else. -/
theorem exists_append_trim_eq (s : Text)
    : ∃ front back, s = front ++ trim s ++ back
      ∧ (∀ c ∈ front, isBlank c = true)
      ∧ ∀ c ∈ back, isBlank c = true := by
  have last (s : Text) : dropEndWhile isBlank s ++ (s.reverse.takeWhile isBlank).reverse = s := by
    rw [dropEndWhile, ← List.reverse_append, List.takeWhile_append_dropWhile, List.reverse_reverse]
  refine ⟨s.takeWhile isBlank, ((s.dropWhile isBlank).reverse.takeWhile isBlank).reverse, ?_, ?_, ?_⟩
  · rw [trim, List.append_assoc, last, List.takeWhile_append_dropWhile]
  · exact fun c => of_mem_takeWhile
  · exact fun c inside => of_mem_takeWhile (List.mem_reverse.mp inside)

/-- Behind trimming nothing is left to trim. -/
theorem trim_trim (s : Text) : trim (trim s) = trim s := by
  unfold trim
  cases start : s.dropWhile isBlank with
  | nil => rfl
  | cons c rest =>
      have first : isBlank c = false := by
        have kept := List.head?_dropWhile_not isBlank s
        rwa [start] at kept
      have single (rest : Text)
          : dropEndWhile isBlank (c :: rest) = c :: dropEndWhile isBlank rest :=
        @dropEndWhile_append isBlank [c] rest (by simpa using first)
      have again
          : dropEndWhile isBlank (dropEndWhile isBlank rest) = dropEndWhile isBlank rest := by
        simp only [dropEndWhile, List.reverse_reverse, List.dropWhile_idempotent]
      rw [single, List.dropWhile_cons_of_neg (by simp [first]), single, again]

end LatexFigures.Text
