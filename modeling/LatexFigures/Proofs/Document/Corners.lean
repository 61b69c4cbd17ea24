import LatexFigures.Proofs.Document.Segments
import LatexFigures.Proofs.Drawing.Summary
import LatexFigures.Proofs.Environment.Region
import LatexFigures.Proofs.Expr.Literal

/-! The corners of a figure as its header writes them: behind the opening mark options in brackets
may stand, and then one or two pairs of numbers. Reading takes the leftmost pair of the whole
header, wherever that stands. So the corners are the written ones as long as the options hold no
pair, and otherwise the options alone tell them.
-/

namespace LatexFigures

namespace Canvas

-----------------------------------------------------------------------------------------
-- Texts without pairs
-----------------------------------------------------------------------------------------

/-- No pair begins in the text, whatever stands behind it: each parenthesis that opens is closed,
and no comma stands in front of the one that closes it.
-/
def opensNoPair : Text → Bool
  | [] => true
  | c :: rest =>
      (c != '(' || (Text.splitFirst? ')' rest).any fun (inner, _) => !inner.contains ',')
        && opensNoPair rest

variable {s front back : Text} {c : Char}

theorem opensNoPair_cons_iff
    : opensNoPair (c :: s) = true
      ↔ (c = '(' → ∃ inner rest, Text.splitFirst? ')' s = some (inner, rest) ∧ ',' ∉ inner)
        ∧ opensNoPair s = true := by
  rw [opensNoPair, Bool.and_eq_true, Bool.or_eq_true, bne_iff_ne]
  cases Text.splitFirst? ')' s with
  | none => simp
  | some cut =>
      obtain ⟨inner, rest⟩ := cut
      simp [imp_iff_not_or]

theorem opensNoPair_of_not_mem (absent : '(' ∉ s) : opensNoPair s = true := by
  induction s with
  | nil => rfl
  | cons c s ih =>
      obtain ⟨other, later⟩ := not_or.mp (mt List.mem_cons.mpr absent)
      exact opensNoPair_cons_iff.mpr ⟨fun same => absurd same.symm other, ih later⟩

theorem opensNoPair_append (first : opensNoPair front = true) (second : opensNoPair back = true)
    : opensNoPair (front ++ back) = true := by
  induction front with
  | nil => exact second
  | cons c front ih =>
      obtain ⟨here, later⟩ := opensNoPair_cons_iff.mp first
      refine opensNoPair_cons_iff.mpr ⟨fun opens => ?_, ih later⟩
      obtain ⟨inner, rest, closed, plain⟩ := here opens
      exact ⟨inner, rest ++ back, Text.splitFirst?_append_of_some closed back, plain⟩

theorem opensNoPair_of_append (both : opensNoPair (front ++ back) = true)
    : opensNoPair back = true := by
  induction front with
  | nil => exact both
  | cons c front ih => exact ih (opensNoPair_cons_iff.mp both).2

-----------------------------------------------------------------------------------------
-- The leftmost pair
-----------------------------------------------------------------------------------------

theorem pair?_of_ne (other : c ≠ '(') (s : Text) : pair? (c :: s) = none := by
  unfold pair?
  split
  · rename_i same
    exact absurd (List.cons.inj same).1 other
  · rfl

theorem pair?_of_closed {inner rest : Text} (closed : Text.splitFirst? ')' s = some (inner, rest))
    : pair? ('(' :: s) = (Text.splitFirst? ',' inner).map fun parts => (parts, rest) := by
  simp only [pair?, closed, Option.bind_eq_bind, Option.bind_some]
  cases Text.splitFirst? ',' inner <;> rfl

/-- The leftmost pair is not in a text that opens none. -/
theorem firstPair?_append (free : opensNoPair front = true) (back : Text)
    : firstPair? (front ++ back) = firstPair? back := by
  induction front with
  | nil => rfl
  | cons c front ih =>
      obtain ⟨here, later⟩ := opensNoPair_cons_iff.mp free
      have nothing : pair? (c :: (front ++ back)) = none := by
        by_cases opens : c = '('
        · obtain ⟨inner, rest, closed, plain⟩ := here opens
          rw [opens, pair?_of_closed (Text.splitFirst?_append_of_some closed back),
            Text.splitFirst?_eq_none_iff.mpr plain]
          rfl
        · exact pair?_of_ne opens _
      rw [List.cons_append, firstPair?, nothing, Option.none_or, ih later]

/-- The pair that stands next, behind any spaces. -/
def nextPair? (rest : Text) : Option (Text × Text) :=
  (pair? (rest.dropWhile Text.isSpace)).map Prod.fst

/-- The canvas that one or two pairs give. -/
def ofPairs? (first : Text × Text) (second : Option (Text × Text)) : Option Canvas :=
  (point? first).bind fun corner =>
    match second with
    | some second => (point? second).map fun opposite => ⟨corner, opposite⟩
    | none => some ⟨⟨0, 0⟩, corner⟩

theorem read?_eq (header : Text)
    : read? header
      = (firstPair? header).bind fun (first, rest) => ofPairs? first (nextPair? rest) := by
  unfold read? ofPairs? nextPair?
  simp only [Option.bind_eq_bind]
  congr 1
  funext (first, rest)
  congr 1
  funext corner
  cases pair? (rest.dropWhile Text.isSpace) with
  | none => rfl
  | some second =>
      obtain ⟨second, behind⟩ := second
      simp only [Option.map_some]
      cases point? second <;> rfl

/-- No mark of a header is in a number. -/
theorem not_mem_of_point? {parts : Text × Text} {p : Point Float} (read : point? parts = some p)
    (mark : c ∈ [',', ')', ']'])
    : c ∉ parts.1 ∧ c ∉ parts.2 := by
  have facts : Text.isBlank c = false ∧ ¬ (Expr.Token.IsWordChar c ∨ c = '+' ∨ c = '-') := by
    simp only [List.mem_cons, List.not_mem_nil, or_false, Expr.Token.IsWordChar] at mark ⊢
    rcases mark with rfl | rfl | rfl <;> decide
  have absent {part : Text} {value : Float}
      (literal : Number.Literal.finite? part.trim = some value)
      : c ∉ part := fun inside =>
    facts.2 (Expr.Token.mem_of_finite? literal c ((Text.mem_trim facts.1).mpr inside))
  simp only [point?, Option.bind_eq_bind, Option.bind_eq_some_iff] at read
  obtain ⟨x, readsX, y, readsY, -⟩ := read
  exact ⟨absent readsX, absent readsY⟩

-----------------------------------------------------------------------------------------
-- Pairs in options
-----------------------------------------------------------------------------------------

/-- Options end here, and behind them a pair is closed. -/
def EndsOptions (back : Text) : Prop :=
  ∃ inner rest, back = ']' :: inner ++ ')' :: rest ∧ ',' ∈ inner ∧ ')' ∉ inner

/-- A parenthesis that options leave open begins a pair that is no point, since the bracket is in
it.
-/
theorem exists_pair?_of_open (opened : ')' ∉ s) (ends : EndsOptions back)
    : ∃ parts rest, pair? ('(' :: (s ++ back)) = some (parts, rest) ∧ point? parts = none := by
  obtain ⟨inner, rest, rfl, comma, free⟩ := ends
  have closed : Text.splitFirst? ')' (s ++ (']' :: inner ++ ')' :: rest))
      = some (s ++ ']' :: inner, rest) :=
    Text.splitFirst?_eq_some_iff.mpr ⟨by simp, by simp [opened, free]⟩
  obtain ⟨⟨x, y⟩, cut⟩ : ∃ parts, Text.splitFirst? ',' (s ++ ']' :: inner) = some parts := by
    refine Option.ne_none_iff_exists'.mp fun uncut => ?_
    exact Text.splitFirst?_eq_none_iff.mp uncut (by simp [comma])
  refine ⟨(x, y), rest, by rw [pair?_of_closed closed, cut]; rfl, ?_⟩
  have bracket : ']' ∈ x ++ ',' :: y := by
    rw [(Text.splitFirst?_eq_some_iff.mp cut).1]
    simp
  refine Option.eq_none_iff_forall_ne_some.mpr fun p read => ?_
  obtain ⟨notInX, notInY⟩ := not_mem_of_point? read (c := ']') (by simp)
  simp [notInX, notInY] at bracket

/-- Options tell the pair that stands next in them, unless they leave it open. -/
theorem nextPair?_append (s : Text)
    : (∃ next, ∀ back, EndsOptions back → nextPair? (s ++ back) = next)
      ∨ ∀ back, EndsOptions back
          → ∃ parts, nextPair? (s ++ back) = some parts ∧ point? parts = none := by
  unfold nextPair?
  cases start : s.dropWhile Text.isSpace with
  | nil =>
      refine .inl ⟨none, fun back ends => ?_⟩
      obtain ⟨inner, rest, rfl, -, -⟩ := ends
      have bracket : (s ++ (']' :: inner ++ ')' :: rest)).dropWhile Text.isSpace
          = ']' :: inner ++ ')' :: rest :=
        Text.dropWhile_append (List.dropWhile_eq_nil_iff.mp start) (by simp; decide)
      rw [bracket, List.cons_append, pair?_of_ne (by decide), Option.map_none]
  | cons c t =>
      have behind (back : Text) : (s ++ back).dropWhile Text.isSpace = c :: (t ++ back) := by
        simp [List.dropWhile_append, start]
      simp only [behind]
      by_cases opens : c = '('
      · subst opens
        cases closed : Text.splitFirst? ')' t with
        | none =>
            refine .inr fun back ends => ?_
            obtain ⟨parts, rest, read, unread⟩ :=
              exists_pair?_of_open (Text.splitFirst?_eq_none_iff.mp closed) ends
            exact ⟨parts, by rw [read, Option.map_some], unread⟩
        | some cut =>
            refine .inl ⟨Text.splitFirst? ',' cut.1, fun back _ => ?_⟩
            rw [pair?_of_closed (Text.splitFirst?_append_of_some closed back), Option.map_map]
            exact Option.map_id'
      · exact .inl ⟨none, fun back _ => by rw [pair?_of_ne opens, Option.map_none]⟩

/-- Where options open a pair, what stands behind them does not matter. By induction on the text in
front of the pair.
-/
theorem exists_read?_append (opens : opensNoPair s = false)
    : ∃ outcome, ∀ back, EndsOptions back → read? (s ++ back) = outcome := by
  simp only [read?_eq]
  induction s with
  | nil => cases opens
  | cons c s ih =>
      have first (back : Text)
          : firstPair? (c :: s ++ back)
            = (pair? (c :: (s ++ back))).or (firstPair? (s ++ back)) := rfl
      simp only [first]
      by_cases here : c = '('
      · subst here
        cases closed : Text.splitFirst? ')' s with
        | none =>
            refine ⟨none, fun back ends => ?_⟩
            obtain ⟨parts, rest, read, unread⟩ :=
              exists_pair?_of_open (Text.splitFirst?_eq_none_iff.mp closed) ends
            simp [read, ofPairs?, unread]
        | some cut =>
            obtain ⟨inner, rest⟩ := cut
            simp only [pair?_of_closed (Text.splitFirst?_append_of_some closed _)]
            cases parts : Text.splitFirst? ',' inner with
            | none =>
                refine ih (Bool.eq_false_iff.mpr fun later => ?_)
                have free : ',' ∉ inner := Text.splitFirst?_eq_none_iff.mp parts
                exact Bool.eq_false_iff.mp opens
                  (opensNoPair_cons_iff.mpr ⟨fun _ => ⟨inner, rest, closed, free⟩, later⟩)
            | some parts =>
                simp only [Option.map_some, Option.some_or, Option.bind_some]
                rcases nextPair?_append rest with ⟨next, same⟩ | unread
                · exact ⟨_, fun back ends => by rw [same back ends]⟩
                · refine ⟨none, fun back ends => ?_⟩
                  obtain ⟨second, read, no⟩ := unread back ends
                  simp [read, ofPairs?, no]
      · simp only [pair?_of_ne here, Option.none_or]
        refine ih (Bool.eq_false_iff.mpr fun later => Bool.eq_false_iff.mp opens ?_)
        exact opensNoPair_cons_iff.mpr ⟨fun same => absurd same here, later⟩

end Canvas

-----------------------------------------------------------------------------------------
-- Headers
-----------------------------------------------------------------------------------------

/-- Two numbers in parentheses, with spaces before them and any blanks around each. -/
structure CoordinateGroup where
  spaces : Text
  x : Text
  y : Text
  point : Point Float
  blank : spaces.all Text.isSpace = true
  readsX : Number.Literal.finite? x.trim = some point.x
  readsY : Number.Literal.finite? y.trim = some point.y

/-- Any text in brackets, with spaces before it. -/
structure OptionBlock where
  spaces : Text
  text : Text
  blank : spaces.all Text.isSpace = true
  closed : ']' ∉ text

/-- What opens a figure: the mark, options that may be left out, and one or two points. -/
structure FigureHeader where
  options : Option OptionBlock
  corner : CoordinateGroup
  opposite : Option CoordinateGroup

namespace CoordinateGroup

/-- The group in a document. -/
def written (g : CoordinateGroup) : Text := g.spaces ++ '(' :: (g.x ++ ',' :: g.y) ++ [')']

variable (g : CoordinateGroup) {c : Char}

theorem isSpace_of_mem (inside : c ∈ g.spaces) : Text.isSpace c = true :=
  List.all_eq_true.mp g.blank c inside

theorem point?_eq : Canvas.point? (g.x, g.y) = some g.point := by
  simp [Canvas.point?, g.readsX, g.readsY]

theorem free (mark : c ∈ [',', ')', ']']) : c ∉ g.x ∧ c ∉ g.y :=
  Canvas.not_mem_of_point? g.point?_eq mark

theorem pair?_eq (rest : Text)
    : Canvas.pair? ('(' :: (g.x ++ ',' :: g.y) ++ ')' :: rest) = some ((g.x, g.y), rest) := by
  have closed : Text.splitFirst? ')' (g.x ++ ',' :: g.y ++ ')' :: rest)
      = some (g.x ++ ',' :: g.y, rest) :=
    Text.splitFirst?_eq_some_iff.mpr ⟨rfl, by simp [g.free]⟩
  have cut : Text.splitFirst? ',' (g.x ++ ',' :: g.y) = some (g.x, g.y) :=
    Text.splitFirst?_eq_some_iff.mpr ⟨rfl, by simp [g.free]⟩
  rw [List.cons_append, Canvas.pair?_of_closed closed, cut]
  rfl

theorem written_append (rest : Text)
    : g.written ++ rest = g.spaces ++ ('(' :: (g.x ++ ',' :: g.y) ++ ')' :: rest) := by
  simp [written]

/-- A group that is written is read as the leftmost pair. -/
theorem firstPair?_written (rest : Text)
    : Canvas.firstPair? (g.written ++ rest) = some ((g.x, g.y), rest) := by
  have free : '(' ∉ g.spaces := fun inside => absurd (g.isSpace_of_mem inside) (by decide)
  rw [written_append, Canvas.firstPair?_append (Canvas.opensNoPair_of_not_mem free)]
  exact Option.or_eq_some_iff.mpr (.inl (g.pair?_eq rest))

/-- A group that is written is read as the pair that stands next. -/
theorem nextPair?_written (rest : Text)
    : Canvas.nextPair? (g.written ++ rest) = some (g.x, g.y) := by
  have start : (g.spaces ++ ('(' :: (g.x ++ ',' :: g.y) ++ ')' :: rest)).dropWhile Text.isSpace
      = '(' :: (g.x ++ ',' :: g.y) ++ ')' :: rest :=
    Text.dropWhile_append (fun _ => g.isSpace_of_mem) (by simp; decide)
  rw [written_append, Canvas.nextPair?, start, g.pair?_eq, Option.map_some]

end CoordinateGroup

namespace FigureHeader

variable (h : FigureHeader)

/-- The text of the options, which may be left out. -/
def optionText : Text := h.options.elim [] (·.text)

/-- The pairs of numbers. -/
def groups : List CoordinateGroup := h.corner :: h.opposite.toList

/-- What belongs to the mark. -/
def arguments : Text :=
  h.options.elim [] (fun o => o.spaces ++ '[' :: o.text ++ [']'])
    ++ h.groups.flatMap CoordinateGroup.written

/-- The header in a document. -/
def written : Text := beginMark "pspicture" ++ h.arguments

/-- The canvas that the groups say: from the first point to the second one, or from zero to the only
one.
-/
def canvas : Canvas :=
  match h.opposite with
  | some opposite => ⟨h.corner.point, opposite.point⟩
  | none => ⟨⟨0, 0⟩, h.corner.point⟩

/-- Groups in parentheses are cut off as they are written, by induction on them. -/
theorem splitGroups_written (groups : List CoordinateGroup) {most : Nat}
    (enough : groups.length ≤ most) {rest : Text}
    (ends : ∀ c ∈ (rest.dropWhile Text.isSpace).head?, c ≠ '(')
    : Delimiter.splitGroups most (groups.flatMap CoordinateGroup.written ++ rest)
      = (groups.flatMap CoordinateGroup.written, rest) := by
  induction groups generalizing most with
  | nil =>
      cases most with
      | zero => rfl
      | succ most =>
          rw [List.flatMap_nil, List.nil_append, Delimiter.splitGroups,
            Delimiter.splitGroup?_of_head ends]
  | cons g groups ih =>
      cases most with
      | zero => simp at enough
      | succ most =>
          have later := ih (Nat.le_of_succ_le_succ enough)
          have closed : ')' ∉ g.x ++ ',' :: g.y := by simp [g.free]
          have group := Delimiter.splitGroup?_written '(' (fun _ => g.isSpace_of_mem) (by decide)
            closed (groups.flatMap CoordinateGroup.written ++ rest)
          rw [List.flatMap_cons, List.append_assoc, g.written_append, Delimiter.splitGroups]
          rw [List.append_assoc] at group
          rw [group]
          simp [later, CoordinateGroup.written]

theorem length_groups_le (groups : List CoordinateGroup)
    : groups.length ≤ (groups.flatMap CoordinateGroup.written).length := by
  induction groups with
  | nil => exact Nat.le_refl _
  | cons g groups ih =>
      simp only [List.flatMap_cons, List.length_append, CoordinateGroup.written, List.length_cons,
        List.length_nil]
      omega

/-- The arguments of a header belong to its mark, and nothing behind them does unless it is a
further group.
-/
theorem splitArguments_written {rest : Text}
    (ends : ∀ c ∈ (rest.dropWhile Text.isSpace).head?, c ≠ '(')
    : Delimiter.splitArguments (h.arguments ++ rest) = (h.arguments, rest) := by
  have enough
      : h.groups.length ≤ (h.groups.flatMap CoordinateGroup.written ++ rest).length := by
    have := length_groups_le h.groups
    simp only [List.length_append]
    omega
  have groups := splitGroups_written h.groups enough ends
  unfold Delimiter.splitArguments arguments
  cases h.options with
  | none =>
      have start : (h.corner.written ++ (h.opposite.toList.flatMap CoordinateGroup.written
          ++ rest)).dropWhile Text.isSpace
          = '(' :: (h.corner.x ++ ',' :: h.corner.y)
            ++ ')' :: (h.opposite.toList.flatMap CoordinateGroup.written ++ rest) := by
        rw [h.corner.written_append]
        exact Text.dropWhile_append (fun _ => h.corner.isSpace_of_mem) (by simp; decide)
      have none : Delimiter.splitGroup? '[' ']'
          (h.groups.flatMap CoordinateGroup.written ++ rest) = none := by
        refine Delimiter.splitGroup?_of_head fun c head => ?_
        rw [FigureHeader.groups, List.flatMap_cons, List.append_assoc, start] at head
        obtain rfl : '(' = c := by simpa using head
        decide
      simp only [Option.elim_none, List.nil_append, none, Option.getD_none, groups]
  | some o =>
      have block := Delimiter.splitGroup?_written '[' (List.all_eq_true.mp o.blank) (by decide)
        o.closed (h.groups.flatMap CoordinateGroup.written ++ rest)
      have whole : o.spaces ++ '[' :: o.text ++ [']'] ++ h.groups.flatMap CoordinateGroup.written
          ++ rest
          = o.spaces ++ '[' :: o.text
            ++ ']' :: (h.groups.flatMap CoordinateGroup.written ++ rest) := by
        simp
      simp only [Option.elim_some, whole, block, Option.getD_some, groups]

-----------------------------------------------------------------------------------------
-- The canvas of a header
-----------------------------------------------------------------------------------------

/-- Where the options hold no pair, the groups are the first pairs of the header. -/
theorem read?_written (free : Canvas.opensNoPair h.optionText = true)
    : Canvas.read? h.written = some h.canvas := by
  have block : Canvas.opensNoPair (h.options.elim [] fun o => o.spaces ++ '[' :: o.text ++ [']'])
      = true := by
    unfold optionText at free
    cases options : h.options with
    | none => rfl
    | some o =>
        rw [options] at free
        have spaces : '(' ∉ o.spaces := fun inside =>
          absurd (List.all_eq_true.mp o.blank _ inside) (by decide)
        have front : Canvas.opensNoPair (o.spaces ++ ['[']) = true :=
          Canvas.opensNoPair_of_not_mem (by simpa using spaces)
        have whole : o.spaces ++ '[' :: o.text ++ [']'] = o.spaces ++ ['['] ++ o.text ++ [']'] := by
          simp
        rw [Option.elim_some, whole]
        exact Canvas.opensNoPair_append (Canvas.opensNoPair_append front free) (by decide)
  have mark : Canvas.opensNoPair (beginMark "pspicture") = true := by decide
  have first : Canvas.firstPair? h.written
      = some ((h.corner.x, h.corner.y), h.opposite.toList.flatMap CoordinateGroup.written) := by
    rw [written, Canvas.firstPair?_append mark, arguments, Canvas.firstPair?_append block, groups,
      List.flatMap_cons, h.corner.firstPair?_written]
  rw [Canvas.read?_eq, first]
  unfold Canvas.ofPairs? canvas
  simp only [Option.bind_some, h.corner.point?_eq]
  cases h.opposite with
  | none => rfl
  | some opposite =>
      have next := opposite.nextPair?_written []
      rw [List.append_nil] at next
      simp only [Option.toList_some, List.flatMap_singleton, next, opposite.point?_eq,
        Option.map_some]

theorem endsOptions (h : FigureHeader)
    : Canvas.EndsOptions (']' :: h.groups.flatMap CoordinateGroup.written) := by
  have spaces : ')' ∉ h.corner.spaces := fun inside =>
    absurd (h.corner.isSpace_of_mem inside) (by decide)
  refine ⟨h.corner.spaces ++ '(' :: (h.corner.x ++ ',' :: h.corner.y),
    h.opposite.toList.flatMap CoordinateGroup.written, ?_, by simp, by simp [spaces, h.corner.free]⟩
  rw [groups, List.flatMap_cons, h.corner.written_append]
  simp

/-- Where the options open a pair, headers with the same options are read alike. -/
theorem read?_written_congr (opens : Canvas.opensNoPair h.optionText = false)
    {other : FigureHeader} (same : other.options = h.options)
    : Canvas.read? other.written = Canvas.read? h.written := by
  unfold optionText at opens
  cases options : h.options with
  | none => rw [options] at opens; cases opens
  | some o =>
      rw [options] at same opens
      let front := beginMark "pspicture" ++ (o.spaces ++ '[' :: o.text)
      have open_front : Canvas.opensNoPair front = false := by
        refine Bool.eq_false_iff.mpr fun none => Bool.eq_false_iff.mp opens ?_
        have whole : front = beginMark "pspicture" ++ (o.spaces ++ ['[']) ++ o.text := by
          simp [front]
        exact Canvas.opensNoPair_of_append (whole ▸ none)
      obtain ⟨outcome, read⟩ := Canvas.exists_read?_append open_front
      have whole {header : FigureHeader} (written : header.options = some o)
          : header.written
            = front ++ (']' :: header.groups.flatMap CoordinateGroup.written) := by
        simp [FigureHeader.written, arguments, written, front]
      rw [whole same, whole options, read _ other.endsOptions, read _ h.endsOptions]

end FigureHeader

-----------------------------------------------------------------------------------------
-- Figures in documents
-----------------------------------------------------------------------------------------

/-- Interpreting lines keeps the corners of the canvas. -/
theorem Figure.ofLines_corners (lines : List Text) (ctx : Context)
    : (ofLines lines ctx).context.lowerLeft = ctx.lowerLeft
      ∧ (ofLines lines ctx).context.upperRight = ctx.upperRight := by
  have after : (ofLines lines ctx).context = _ := (Plan.built_interpretLines lines ctx).after_eq
  rw [after]
  exact ⟨rfl, rfl⟩

/-- The segment is a figure on this canvas, which opened under these settings. -/
def Segment.DrawsOn (segment : Segment) (canvas : Canvas) (settings : Settings) : Prop :=
  ∃ figure,
    segment.figure = some figure
    ∧ figure.context.lowerLeft = canvas.lowerLeft
    ∧ figure.context.upperRight = canvas.upperRight
    ∧ figure
      = Figure.ofLines segment.lines
          (Context.initial canvas.lowerLeft canvas.upperRight settings)

namespace Document

variable {rules : TextRules} {stretch : Stretch}

/-- A figure that is drawn is drawn on the canvas of its header. -/
theorem Stretch.drawsOn_of_opening {header : Text}
    (opened : stretch.before.getLast? = some (.opening .figure header))
    (drawn : (stretch.segment rules).figure.isSome)
    : ∃ canvas,
        Canvas.read? header = some canvas
        ∧ (stretch.segment rules).DrawsOn canvas (settingsAfter rules stretch.before) := by
  have context : stretch.context? rules
      = (Canvas.read? header).map fun canvas =>
          Context.initial canvas.lowerLeft canvas.upperRight
            (settingsAfter rules stretch.before) := by
    rw [Stretch.context?, opened, Option.bind_some, openedContext?]
  rw [Stretch.segment, context, Option.isSome_map, Option.isSome_map] at drawn
  obtain ⟨canvas, read⟩ := Option.isSome_iff_exists.mp drawn
  obtain ⟨lowerLeft, upperRight⟩ := Figure.ofLines_corners (stretch.lines rules)
    (Context.initial canvas.lowerLeft canvas.upperRight (settingsAfter rules stretch.before))
  refine ⟨canvas, read, _, ?_, lowerLeft, upperRight, rfl⟩
  rw [Stretch.segment, context, read, Option.map_some, Option.map_some]

theorem Stretch.kind_of_opening {kind : EnvironmentKind} {header : Text}
    (opened : stretch.before.getLast? = some (.opening kind header))
    : stretch.kind = kind := by
  obtain ⟨earlier, whole⟩ := List.getLast?_eq_some_iff.mp opened
  rw [Stretch.kind, whole, inForceAfter_append_singleton]
  rfl

/-- A header with its options and its groups is an opening delimiter as a whole. As long as the
options hold no pair, its canvas is what the groups say; where they hold one, the groups do not
matter at all. A document without malformed headers is read, and the figures that the header opens
are drawn on that canvas, under the settings in force in front of them.
-/
theorem parse_figure_corners (h : FigureHeader)
    : (∀ (table : DelimiterTable) (current : EnvironmentKind) (rest : Text),
          .figure ∈ table.kinds
          → current.isLiteral = false
          → (∀ c ∈ (rest.dropWhile Text.isSpace).head?, c ≠ '(')
          → table.scan current (h.written ++ rest)
            = (.opening .figure h.written :: (table.scan .figure rest).1,
              (table.scan .figure rest).2))
      ∧ (Canvas.opensNoPair h.optionText = true → Canvas.read? h.written = some h.canvas)
      ∧ (Canvas.opensNoPair h.optionText = false
          → ∀ other : FigureHeader,
              other.options = h.options
              → Canvas.read? other.written = Canvas.read? h.written)
      ∧ ∀ (registry : Registry) (s : Text),
          (∀ item ∈ items registry.delimiters s, item.malformed? = none)
          → ∃ segments,
              parse registry s = .ok segments
              ∧ List.Forall₂
                  (fun stretch segment =>
                    stretch.before.getLast? = some (.opening .figure h.written)
                    → ∃ canvas,
                        Canvas.read? h.written = some canvas
                        ∧ segment.DrawsOn canvas (settingsAfter registry.rules stretch.before))
                  (contentStretches registry s) segments := by
  refine ⟨?_, h.read?_written, fun opens other => h.read?_written_congr opens, ?_⟩
  · intro table current rest registered plain ends
    have cut := h.splitArguments_written ends
    rw [FigureHeader.written, List.append_assoc]
    exact DelimiterTable.scan_beginMark registered plain cut
  · intro registry s wellFormed
    have parsed : parse registry s
        = .ok ((contentStretches registry s).map (·.segment registry.rules)) := by
      rw [parse_eq, List.findSome?_eq_none_iff.mpr wellFormed]
    refine ⟨_, parsed, forall₂_of_parse parsed fun stretch member _ opened => ?_⟩
    have figure : (stretch.segment registry.rules).kind = .figure := stretch.kind_of_opening opened
    exact stretch.drawsOn_of_opening opened ((drawn_of_parse parsed _ member).mpr figure)

/-- Options that hold parentheses but no pair stand in front of two points, with blanks everywhere.
-/
theorem parse_figure_corners_of_options
    : ∃ (h : FigureHeader) (s : Text) (segment : Segment),
        h.written = "\\begin\x7bpspicture\x7d [a(b)c] ( 0 ,1) (4,5)".toList
        ∧ h.canvas = ⟨⟨0, 1⟩, ⟨4, 5⟩⟩
        ∧ DelimiterTable.standard.scan .math h.written = ([.opening .figure h.written], .figure)
        ∧ Canvas.read? h.written = some h.canvas
        ∧ s = "\\psset\x7bunit=2cm\x7d\n".toList ++ h.written
            ++ "\n\\psline(1,1)\n\\end\x7bpspicture\x7d".toList
        ∧ parse {} s = .ok [segment]
        ∧ segment.DrawsOn h.canvas (({} : Settings).declare "unit=2cm".toList) := by
  let h : FigureHeader :=
    { options := some ⟨[' '], "a(b)c".toList, by decide, by decide +kernel⟩
      corner := ⟨[' '], " 0 ".toList, "1".toList, ⟨0, 1⟩, by decide, by decide +kernel,
        by decide +kernel⟩
      opposite := some ⟨[' '], "4".toList, "5".toList, ⟨4, 5⟩, by decide, by decide +kernel,
        by decide +kernel⟩ }
  let registry : Registry := {}
  let s : Text := "\\psset\x7bunit=2cm\x7d\n".toList ++ h.written
    ++ "\n\\psline(1,1)\n\\end\x7bpspicture\x7d".toList
  obtain ⟨scanned, read, -, drawn⟩ := parse_figure_corners h
  have read := read (by decide)
  have scanned := scanned .standard .math [] (by decide +kernel) rfl (by simp)
  rw [List.append_nil] at scanned
  obtain ⟨segments, parsed, related⟩ := drawn registry s (by decide +kernel)
  obtain ⟨stretch, single⟩ :=
    List.length_eq_one_iff.mp (by decide +kernel : (contentStretches registry s).length = 1)
  have facts : ∀ stretch ∈ contentStretches registry s,
      stretch.before.getLast? = some (.opening .figure h.written)
      ∧ settingsAfter registry.rules stretch.before = ({} : Settings).declare "unit=2cm".toList := by
    decide +kernel
  rw [single] at related facts
  obtain ⟨segment, _, here, none, rfl⟩ := List.forall₂_cons_left_iff.mp related
  obtain rfl := List.forall₂_nil_left_iff.mp none
  obtain ⟨opened, settings⟩ := facts stretch (by simp)
  obtain ⟨canvas, same, drawn⟩ := here opened
  obtain rfl : h.canvas = canvas := Option.some.inj (read.symm.trans same)
  rw [settings] at drawn
  exact ⟨h, s, segment, by decide +kernel, rfl, scanned, read, rfl, parsed, drawn⟩

/-- A pair in the options is taken for the canvas, in place of the groups. -/
theorem parse_figure_corners_misses_groups
    : ∃ h : FigureHeader,
        h.written = "\\begin\x7bpspicture\x7d[origin=(1,2)](0,0)(4,4)".toList
        ∧ h.canvas = ⟨⟨0, 0⟩, ⟨4, 4⟩⟩
        ∧ (parse {} (h.written ++ "\n\\psline(1,1)\n\\end\x7bpspicture\x7d".toList)).toOption.map
            (·.map fun segment => segment.figure.map fun figure =>
              (figure.context.lowerLeft, figure.context.upperRight))
          = some [some (⟨0, 0⟩, ⟨1, 2⟩)] := by
  refine ⟨⟨some ⟨[], "origin=(1,2)".toList, by decide, by decide +kernel⟩,
    ⟨[], "0".toList, "0".toList, ⟨0, 0⟩, by decide, by decide +kernel, by decide +kernel⟩,
    some ⟨[], "4".toList, "4".toList, ⟨4, 4⟩, by decide, by decide +kernel, by decide +kernel⟩⟩,
    ?_, rfl, ?_⟩
  · decide +kernel
  · decide +kernel

end Document

end LatexFigures
