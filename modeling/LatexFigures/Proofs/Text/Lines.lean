import Mathlib.Data.List.Basic
import LatexFigures.Text.Lines

/-! Cutting a text at a mark gives back the parts that were joined by it, and so the lines of a
document are the lines that were written. A line knows its place: what stands in front of it has
the bytes that its offset counts, and the line feeds that its number counts.
-/

namespace LatexFigures.Text

/-- The text is within one line, and no line end is in it. -/
def Unbroken (s : Text) : Prop := '\n' ∉ s ∧ '\r' ∉ s

instance (s : Text) : Decidable s.Unbroken := inferInstanceAs (Decidable (_ ∧ _))

theorem Unbroken.append {s rest : Text} (front : s.Unbroken) (back : rest.Unbroken)
    : Unbroken (s ++ rest) :=
  ⟨fun inside => (List.mem_append.mp inside).elim front.1 back.1,
    fun inside => (List.mem_append.mp inside).elim front.2 back.2⟩

theorem splitAll_eq_splitOn (mark : Char) (s : Text) : splitAll mark s = s.splitOn mark := by
  induction s with
  | nil => rfl
  | cons c rest ih =>
      rw [splitAll, ih, List.splitOn_eq_splitOnP, List.splitOn_eq_splitOnP,
        List.splitOnP_cons_eq_if_modifyHead]
      by_cases here : c = mark
      · simp [here]
      · simp only [here, if_false, beq_iff_eq]
        cases parts : rest.splitOnP (· == mark) with
        | nil => exact absurd parts (List.splitOnP_ne_nil _ _)
        | cons part parts => rfl

theorem splitAll_intercalate {mark : Char} {parts : List Text} (nonempty : parts ≠ [])
    (free : ∀ part ∈ parts, mark ∉ part)
    : splitAll mark ([mark].intercalate parts) = parts := by
  rw [splitAll_eq_splitOn]
  exact List.splitOn_intercalate mark free nonempty

theorem dropReturn_of_not_mem {s : Text} (free : '\r' ∉ s) : dropReturn s = s := by
  unfold dropReturn
  split
  · rename_i last
    exact absurd (List.mem_of_getLast? last) free
  · rfl

/-- What is dropped is the carriage return of a line end, if there is one. -/
theorem exists_ending (raw : Text)
    : ∃ ending, raw = dropReturn raw ++ ending ∧ (ending = [] ∨ ending = ['\r']) := by
  unfold dropReturn
  split
  · rename_i last
    exact ⟨['\r'], (List.dropLast_append_getLast? _ last).symm, .inr rfl⟩
  · exact ⟨[], (List.append_nil raw).symm, .inl rfl⟩

theorem placeLines_map_text (number offset : Nat) (raws : List Text)
    : (placeLines number offset raws).map (·.text) = raws.map dropReturn := by
  induction raws generalizing number offset with
  | nil => rfl
  | cons raw raws ih => simp [placeLines, ih]

/-- Lines joined by line feeds are the lines of the document. -/
theorem lines_intercalate_map_text {parts : List Text} (nonempty : parts ≠ [])
    (free : ∀ part ∈ parts, Unbroken part)
    : (lines (['\n'].intercalate parts)).map (·.text) = parts := by
  rw [lines, placeLines_map_text, splitAll_intercalate nonempty fun part member =>
    (free part member).1]
  exact (List.map_congr_left fun part member =>
    dropReturn_of_not_mem (free part member).2).trans (List.map_id parts)

/-- A text in front of joined parts belongs to the first of them. -/
theorem append_intercalate_cons (front sep part : Text) (parts : List Text)
    : front ++ sep.intercalate (part :: parts) = sep.intercalate ((front ++ part) :: parts) := by
  cases parts <;> simp [List.intercalate]

/-- A text behind joined parts belongs to the last of them. -/
theorem intercalate_append_singleton (sep part back : Text) (parts : List Text)
    : sep.intercalate (parts ++ [part]) ++ back
      = sep.intercalate (parts ++ [part ++ back]) := by
  induction parts with
  | nil => simp [List.intercalate]
  | cons first parts ih =>
      cases parts with
      | nil => simp [List.intercalate]
      | cons second parts =>
          simp only [List.cons_append, List.intercalate_cons_cons, List.append_assoc] at ih ⊢
          rw [ih]

-----------------------------------------------------------------------------------------
-- Bytes
-----------------------------------------------------------------------------------------

theorem byteSize_append (s rest : Text) : byteSize (s ++ rest) = s.byteSize + rest.byteSize := by
  induction s with
  | nil => simp [byteSize]
  | cons c s ih => simp [byteSize, ih, Nat.add_assoc]

/-- The size of a text is the number of bytes of its encoding. -/
theorem size_utf8Encode (s : Text) : s.utf8Encode.size = s.byteSize := by
  induction s with
  | nil => rfl
  | cons c s ih =>
      have head : List.utf8Encode [c] = (String.utf8EncodeChar c).toByteArray := by
        simp [List.utf8Encode]
      rw [← List.singleton_append, List.utf8Encode_append, ByteArray.size_append, ih, head,
        List.size_toByteArray, String.length_utf8EncodeChar]
      rfl

/-- The bytes of a part of a text stand behind those of what is in front of it. -/
theorem extract_utf8Encode (front s back : Text)
    : (front ++ (s ++ back)).utf8Encode.extract front.byteSize (front.byteSize + s.byteSize)
      = s.utf8Encode := by
  have start : front.byteSize = front.utf8Encode.size + 0 := by rw [size_utf8Encode, Nat.add_zero]
  have stop : front.byteSize + s.byteSize = front.utf8Encode.size + s.utf8Encode.size := by
    rw [size_utf8Encode, size_utf8Encode]
  rw [List.utf8Encode_append, List.utf8Encode_append, stop, start,
    ByteArray.extract_append_size_add, ByteArray.extract_append_eq_left rfl]

-----------------------------------------------------------------------------------------
-- Lines and their places
-----------------------------------------------------------------------------------------

/-- The text is a line, without its line feed, between what stands in front of it and behind it. -/
structure LineAt (s front raw back : Text) : Prop where
  whole : s = front ++ (raw ++ back)
  begins : front = [] ∨ front.getLast? = some '\n'
  oneLine : '\n' ∉ raw
  ends : back = [] ∨ back.head? = some '\n'

theorem splitAll_length (mark : Char) (s : Text)
    : (splitAll mark s).length = s.count mark + 1 := by
  rw [splitAll_eq_splitOn]
  induction s with
  | nil => rfl
  | cons c s ih =>
      rw [List.splitOn_cons_eq_if_modifyHead, List.count_cons]
      split <;> simp [ih]

theorem splitAll_append_cons (mark : Char) (s rest : Text)
    : splitAll mark (s ++ mark :: rest) = splitAll mark s ++ splitAll mark rest := by
  simp only [splitAll_eq_splitOn, List.splitOn_append_cons_self]

theorem splitAll_of_not_mem {mark : Char} {s : Text} (free : mark ∉ s)
    : splitAll mark s = [s] := by
  rw [splitAll_eq_splitOn, List.splitOn_eq_singleton free]

/-- Parts that are ended by line feeds make up the text again, with one line feed more. -/
theorem splitAll_flatMap (s : Text)
    : (splitAll '\n' s).flatMap (· ++ ['\n']) = s ++ ['\n'] := by
  induction s with
  | nil => rfl
  | cons c s ih =>
      rw [splitAll]
      split
      · rename_i feed
        simp [ih, feed]
      · cases parts : splitAll '\n' s with
        | nil => simp [parts] at ih
        | cons part parts =>
            rw [parts] at ih
            simpa using ih

theorem placeLines_length (number offset : Nat) (raws : List Text)
    : (placeLines number offset raws).length = raws.length := by
  induction raws generalizing number offset with
  | nil => rfl
  | cons raw raws ih => simp [placeLines, ih]

theorem placeLines_append (number offset : Nat) (raws more : List Text)
    : placeLines number offset (raws ++ more)
      = placeLines number offset raws
        ++ placeLines (number + raws.length)
            (offset + byteSize (raws.flatMap (· ++ ['\n']))) more := by
  induction raws generalizing number offset with
  | nil => rfl
  | cons raw raws ih =>
      have feed : byteSize ['\n'] = 1 := by decide
      simp only [List.cons_append, placeLines, ih, List.length_cons, List.flatMap_cons,
        byteSize_append, feed, Nat.add_assoc, Nat.add_comm 1]

/-- A line and what stands behind it are cut at the line feed between them. -/
theorem splitAll_line {raw back : Text} (oneLine : '\n' ∉ raw)
    (ends : back = [] ∨ back.head? = some '\n')
    : splitAll '\n' (raw ++ back) = raw :: (splitAll '\n' back).tail := by
  rcases ends with rfl | starts
  · rw [List.append_nil, splitAll_of_not_mem oneLine]
    rfl
  · obtain ⟨rest, rfl⟩ := List.head?_eq_some_iff.mp starts
    rw [splitAll_append_cons, splitAll_of_not_mem oneLine, List.singleton_append, splitAll,
      if_pos rfl, List.tail_cons]

/-- The document in front of a line ends with an empty line where that one begins. -/
theorem LineAt.splitAll_eq {s front raw back : Text} (h : s.LineAt front raw back)
    : ∃ earlier,
        splitAll '\n' s = earlier ++ raw :: (splitAll '\n' back).tail
        ∧ splitAll '\n' front = earlier ++ [[]] := by
  have behind := splitAll_line h.oneLine h.ends
  rcases h.begins with rfl | ends
  · exact ⟨[], by rw [h.whole, List.nil_append, behind, List.nil_append], rfl⟩
  · obtain ⟨start, rfl⟩ := List.getLast?_eq_some_iff.mp ends
    refine ⟨splitAll '\n' start, ?_, ?_⟩
    · rw [h.whole, List.append_assoc, List.singleton_append, splitAll_append_cons, behind]
    · rw [splitAll_append_cons]
      rfl

/-- Every part between line feeds is a line of the document, by induction on those in front. -/
theorem exists_lineAt {s raw : Text} {earlier later : List Text}
    (cut : splitAll '\n' s = earlier ++ raw :: later)
    : ∃ front back,
        s.LineAt front raw back
        ∧ splitAll '\n' front = earlier ++ [[]] := by
  induction earlier generalizing s with
  | nil =>
      by_cases inside : '\n' ∈ s
      · obtain ⟨first, rest, rfl, free⟩ := List.eq_append_cons_of_mem inside
        rw [splitAll_append_cons, splitAll_of_not_mem free] at cut
        obtain ⟨rfl, -⟩ := List.cons.inj cut
        exact ⟨[], '\n' :: rest, ⟨rfl, .inl rfl, free, .inr rfl⟩, rfl⟩
      · rw [splitAll_of_not_mem inside] at cut
        obtain ⟨rfl, -⟩ := List.cons.inj cut
        exact ⟨[], [], ⟨by simp, .inl rfl, inside, .inl rfl⟩, rfl⟩
  | cons first earlier ih =>
      have inside : '\n' ∈ s := by
        refine Decidable.byContradiction fun free => ?_
        rw [splitAll_of_not_mem free] at cut
        simp at cut
      obtain ⟨start, rest, rfl, free⟩ := List.eq_append_cons_of_mem inside
      rw [splitAll_append_cons, splitAll_of_not_mem free] at cut
      obtain ⟨rfl, behind⟩ := List.cons.inj cut
      obtain ⟨front, back, line, before⟩ := ih behind
      refine ⟨start ++ '\n' :: front, back, ⟨?_, .inr ?_, line.oneLine, line.ends⟩, ?_⟩
      · rw [line.whole, List.append_assoc, List.cons_append]
      · rcases line.begins with rfl | ends
        · simp
        · rw [List.getLast?_append, List.getLast?_cons, ends]
          rfl
      · rw [splitAll_append_cons, splitAll_of_not_mem free, before]
        rfl

/-- The line with this text that begins behind (front). -/
def lineBehind (front text : Text) : Line := ⟨front.count '\n' + 1, front.byteSize, text⟩

theorem lines_of_splitAll {s front raw : Text} {earlier later : List Text}
    (cut : splitAll '\n' s = earlier ++ raw :: later)
    (before : splitAll '\n' front = earlier ++ [[]])
    : ∃ behind,
        lines s = placeLines 1 0 earlier ++ lineBehind front (dropReturn raw) :: behind
        ∧ lines front = placeLines 1 0 earlier ++ [lineBehind front []]
        ∧ behind.map (·.text) = later.map dropReturn := by
  have number : 1 + earlier.length = front.count '\n' + 1 := by
    have length := congrArg List.length before
    simp only [splitAll_length, List.length_append, List.length_singleton] at length
    omega
  have whole : earlier.flatMap (· ++ ['\n']) = front := by
    have ended := splitAll_flatMap front
    rw [before, List.flatMap_append] at ended
    exact List.append_cancel_right ended
  refine ⟨placeLines (front.count '\n' + 1 + 1) (front.byteSize + raw.byteSize + 1) later, ?_, ?_,
    placeLines_map_text ..⟩
  · rw [lines, cut, placeLines_append, number, whole, Nat.zero_add]
    rfl
  · rw [lines, before, placeLines_append, number, whole, Nat.zero_add]
    rfl

/-- A line has its place among the lines of the document. The texts of those behind it do not depend
on it.
-/
theorem LineAt.lines_eq {s front raw back : Text} (h : s.LineAt front raw back)
    : ∃ earlier later,
        lines s = earlier ++ lineBehind front (dropReturn raw) :: later
        ∧ lines front = earlier ++ [lineBehind front []]
        ∧ later.map (·.text) = (splitAll '\n' back).tail.map dropReturn := by
  obtain ⟨earlier, cut, before⟩ := h.splitAll_eq
  obtain ⟨behind, placed⟩ := lines_of_splitAll cut before
  exact ⟨placeLines 1 0 earlier, behind, placed⟩

/-- Text behind a line feed adds lines behind those of the text in front of it. -/
theorem exists_lines_append (s rest : Text)
    : ∃ more, lines (s ++ '\n' :: rest) = lines s ++ more := by
  rw [lines, splitAll_append_cons, placeLines_append]
  exact ⟨_, rfl⟩

/-- Each of the lines is one that stands in the document, in its place. -/
theorem lineAt_of_lines_eq {s : Text} {line : Line} {earlier later : List Line}
    (cut : lines s = earlier ++ line :: later)
    : ∃ front raw back,
        s.LineAt front raw back
        ∧ line = lineBehind front (dropReturn raw)
        ∧ lines front = earlier ++ [lineBehind front []] := by
  have length := congrArg List.length cut
  simp only [lines, placeLines_length, List.length_append, List.length_cons] at length
  have below : earlier.length < (splitAll '\n' s).length := by omega
  have parts : splitAll '\n' s
      = (splitAll '\n' s).take earlier.length
        ++ (splitAll '\n' s)[earlier.length] :: (splitAll '\n' s).drop (earlier.length + 1) := by
    rw [← List.drop_eq_getElem_cons, List.take_append_drop]
  obtain ⟨front, back, stands, before⟩ := exists_lineAt parts
  obtain ⟨behind, same, first, -⟩ := lines_of_splitAll parts before
  rw [cut] at same
  obtain ⟨front_same, tail⟩ :=
    List.append_inj same (by rw [placeLines_length, List.length_take]; omega)
  exact ⟨front, _, back, stands, (List.cons.inj tail).1, front_same ▸ first⟩

end LatexFigures.Text
