import LatexFigures.Proofs.Settings.LastWriter
import LatexFigures.Style.Resolve

/-! Styles by option blocks and by declarations. What an option block of a drawing says about its
style, a declaration in front of the drawing says as well.
-/

namespace LatexFigures

open Number

-----------------------------------------------------------------------------------------
-- The entries of a block
-----------------------------------------------------------------------------------------

namespace Options

/-- An entry with no more than one equals sign is the same pair in a block and in a declaration. -/
theorem entry?_eq {entry : Text} (single : entry.count '=' ≤ 1)
    : entry? entry = Settings.entry? entry := by
  unfold entry? Settings.entry?
  by_cases sign : '=' ∈ entry
  · obtain ⟨key, value, rfl, free⟩ := List.eq_append_cons_of_mem sign
    have rest : '=' ∉ value := by
      intro again
      have more := List.count_pos_iff.mpr again
      simp only [List.count_append, List.count_cons_self] at single
      omega
    rw [Text.splitAll_append_cons, Text.splitAll_of_not_mem free, Text.splitAll_of_not_mem rest,
      Text.splitFirst?_eq_some_iff.mpr ⟨rfl, free⟩]
    rfl
  · rw [Text.splitAll_of_not_mem sign, Text.splitFirst?_eq_none_iff.mpr sign]
    rfl

/-- The brackets of a block are taken off, and no more than these unless brackets follow or precede
them.
-/
theorem read_brackets {body : Text} (opens : body.head? ≠ some '[')
    (closes : body.getLast? ≠ some ']')
    : (read (some ('[' :: (body ++ [']'])))).entries
      = (Text.splitAll ',' body).filterMap entry? := by
  have solid : Text.trim ('[' :: (body ++ [']'])) = '[' :: (body ++ [']']) := by
    simp [Text.trim, Text.dropEndWhile, Text.isBlank]
  have front : ('[' :: (body ++ [']'])).dropWhile (· = '[') = body ++ [']'] := by
    cases body with
    | nil => rfl
    | cons c body =>
        have other : c ≠ '[' := fun same => opens (by rw [same]; rfl)
        simp [other]
  have back : Text.dropEndWhile (· = ']') (body ++ [']']) = body := by
    have kept : ∀ c ∈ body.getLast?, decide (c = ']') = false := by
      intro c last
      exact decide_eq_false fun same => closes (by rw [← same]; exact last)
    rw [Text.dropEndWhile_append kept]
    simp [Text.dropEndWhile]
  rw [read, solid, front, back]

end Options

-----------------------------------------------------------------------------------------
-- The last entry of a key
-----------------------------------------------------------------------------------------

namespace Settings

/-- The body can stand between the brackets of a block as well: no bracket is next to these, no
entry has a second equals sign, no key comes twice, and a width of lines is readable.
-/
structure IsOptionBody (body : Text) : Prop where
  opens : body.head? ≠ some '['
  closes : body.getLast? ≠ some ']'
  single : ∀ entry ∈ Text.splitAll ',' body, entry.count '=' ≤ 1
  distinct : ((entries body).map Prod.fst).Nodup
  width
    : ∀ entry ∈ entries body,
        entry.1 = "linewidth".toList → (Literal.finite? entry.2).isSome = true

theorem entries_of_isOptionBody {body : Text} (h : IsOptionBody body)
    : (Options.read (some ('[' :: (body ++ [']'])))).entries = entries body := by
  rw [Options.read_brackets h.opens h.closes, entries]
  exact List.filterMap_congr fun entry member => Options.entry?_eq (h.single entry member)

theorem declare_append (settings : Settings) (front back : Text)
    : settings.declare (front ++ ',' :: back) = (settings.declare front).declare back := by
  rw [declare_eq_foldl, Text.splitAll_append_cons, List.foldl_append, ← declare_eq_foldl,
    ← declare_eq_foldl]

namespace Field

variable {α : Type} {field : Field α} {key : Text}

/-- A field with one key of its own holds what the entry with this key gives it. Keys come once, so
that an unreadable value leaves what was there in front of all entries. By induction from the first
entry on.
-/
theorem get_foldl_assign (own : ∀ other, field.isTarget other = true ↔ other = key)
    (settings : Settings) {entries : List (Text × Text)} (distinct : (entries.map Prod.fst).Nodup)
    : field.get (entries.foldl (fun settings (key, value) => settings.assign key value) settings)
      = ((entries.reverse.lookup key).bind field.read?).getD (field.get settings) := by
  induction entries using List.reverseRecOn with
  | nil => rfl
  | append_singleton entries entry ih =>
      rw [List.map_append, List.map_singleton, List.nodup_append] at distinct
      obtain ⟨front, -, apart⟩ := distinct
      have earlier := ih front
      rw [List.foldl_append, List.foldl_cons, List.foldl_nil, get_assign, earlier,
        List.reverse_append, List.reverse_singleton, List.singleton_append, List.lookup_cons]
      by_cases same : entry.1 = key
      · have fresh : entries.reverse.lookup key = none := by
          refine List.lookup_eq_none_iff.mpr fun other member => ?_
          have listed := List.mem_map_of_mem (f := Prod.fst) (List.mem_reverse.mp member)
          exact bne_iff_ne.mpr fun again =>
            apart _ listed entry.1 (List.mem_singleton_self _) (again.symm.trans same.symm)
        have target : field.isTarget key = true := (own key).mpr rfl
        simp [target, same, fresh]
      · have other : field.isTarget entry.1 = false :=
          Bool.eq_false_iff.mpr fun target => same ((own entry.1).mp target)
        have differs : (key == entry.1) = false := beq_false_of_ne (Ne.symm same)
        simp [other, differs]

end Field

end Settings

-----------------------------------------------------------------------------------------
-- Layers
-----------------------------------------------------------------------------------------

namespace Style

variable {body : Text}

/-- The last value that a body declares for a style field with this key. -/
theorem get_declare_of_isOptionBody {β : Type} {field : Settings.Field (Option β)} {key : String}
    {read? : Text → Option β}
    (own : ∀ other, field.isTarget other = true ↔ other = key.toList)
    (reads : ∀ value, field.read? value = (read? value).map some)
    (h : Settings.IsOptionBody body) (settings : Settings) (default : β)
    : (field.get (settings.declare body)).getD default
      = (((Options.read (some ('[' :: (body ++ [']'])))).get? key).bind read?).getD
          ((field.get settings).getD default) := by
  rw [Settings.declare, Settings.Field.get_foldl_assign own settings h.distinct, Options.get?,
    Settings.entries_of_isOptionBody h]
  cases (Settings.entries body).reverse.lookup key.toList with
  | none => rfl
  | some value =>
      simp only [Option.bind_some, reads]
      cases read? value <;> rfl

/-- A style as its layers give it, field by field, if the width among the options is readable. -/
theorem resolve_eq {options : Options}
    (width : ∀ value ∈ options.get? "linewidth", (Literal.finite? value).isSome = true)
    (style : Style) (settings : Settings)
    : style.resolve settings options
      = { linecolor :=
            ((options.get? "linecolor").bind some).getD
              ((Settings.Field.linecolor.get settings).getD style.linecolor)
          linestyle :=
            ((options.get? "linestyle").bind LineStyle.named?).getD
              ((Settings.Field.linestyle.get settings).getD style.linestyle)
          linewidth :=
            ((options.get? "linewidth").bind Literal.finite?).getD
              ((Settings.Field.linewidth.get settings).getD style.linewidth)
          fillcolor :=
            ((options.get? "fillcolor").bind some).getD
              ((Settings.Field.fillcolor.get settings).getD style.fillcolor)
          fillstyle :=
            ((options.get? "fillstyle").bind FillStyle.named?).getD
              ((Settings.Field.fillstyle.get settings).getD style.fillstyle) } := by
  simp only [resolve, withOptions, withSettings, Option.bind_fun_some, Settings.Field.get]
  congr 1
  cases given : options.get? "linewidth" with
  | none => rfl
  | some value =>
      obtain ⟨number, readable⟩ := Option.isSome_iff_exists.mp (width value given)
      simp only [Option.bind_some, readable, Option.getD_some]

/-- An option block styles a drawing as its entries do when they are declared in front of it, behind
what was declared before, whatever the defaults are.
-/
theorem resolve_options_eq_declare (style : Style) (settings : Settings) (front : Text)
    {body : Text} (h : Settings.IsOptionBody body)
    : style.resolve (settings.declare front) (Options.read (some ('[' :: (body ++ [']']))))
      = style.resolve (settings.declare (front ++ ',' :: body)) (Options.read none) := by
  have lastValue {β : Type} (field : Settings.Field (Option β)) (key : String)
      (read? : Text → Option β)
      (own : ∀ other, field.isTarget other = true ↔ other = key.toList)
      (reads : ∀ value, field.read? value = (read? value).map some) (default : β) :=
    get_declare_of_isOptionBody own reads h (settings.declare front) default
  have width : ∀ value ∈ (Options.read (some ('[' :: (body ++ [']'])))).get? "linewidth",
      (Literal.finite? value).isSome = true := by
    intro value given
    rw [Options.get?, Settings.entries_of_isOptionBody h] at given
    obtain ⟨later, earlier, listed, -⟩ := List.lookup_eq_some_iff.mp given
    have member : ("linewidth".toList, value) ∈ Settings.entries body :=
      List.mem_reverse.mp (listed ▸ List.mem_append_right _ List.mem_cons_self)
    have readable := h.width _ member rfl
    exact readable
  rw [resolve_eq width, resolve_eq (fun value given => by cases given), Settings.declare_append,
    lastValue .linecolor "linecolor" some (fun _ => decide_eq_true_iff) fun _ => rfl,
    lastValue .linestyle "linestyle" LineStyle.named? (fun _ => decide_eq_true_iff) fun _ => rfl,
    lastValue .linewidth "linewidth" Literal.finite? (fun _ => decide_eq_true_iff) fun _ => rfl,
    lastValue .fillcolor "fillcolor" some (fun _ => decide_eq_true_iff) fun _ => rfl,
    lastValue .fillstyle "fillstyle" FillStyle.named? (fun _ => decide_eq_true_iff) fun _ => rfl]
  have none (key : String) : (Options.read none).get? key = none := rfl
  simp only [none, Option.bind_none, Option.getD_none]

/-- A known style stays where the block names an unknown one, and blanks around an equals sign and
what is no pair make no difference.
-/
theorem resolve_options_eq_declare_of_unknown_style
    : ∃ (front body : Text) (options : Options) (style : Style),
        front = "linecolor=red,linewidth=3,linestyle=dotted,linestyle=faint".toList
        ∧ body = " linewidth = .5,linestyle=wavy,fillstyle=vlines*,bold,fillcolor = a] ".toList
        ∧ Settings.IsOptionBody body
        ∧ options = Options.read (some ('[' :: (body ++ [']'])))
        ∧ style = ⟨"red".toList, .dotted, 0.5, "a]".toList, .vlines⟩
        ∧ (plain .solid "black").resolve (({} : Settings).declare front) options = style
        ∧ (plain .solid "black").resolve (({} : Settings).declare (front ++ ',' :: body)) {}
          = style := by
  let front : Text := "linecolor=red,linewidth=3,linestyle=dotted,linestyle=faint".toList
  let body : Text := " linewidth = .5,linestyle=wavy,fillstyle=vlines*,bold,fillcolor = a] ".toList
  have fits : Settings.IsOptionBody body :=
    ⟨by decide, by decide, by decide, by decide, by decide +kernel⟩
  have same := resolve_options_eq_declare (plain .solid "black") {} front fits
  have resolved : (plain .solid "black").resolve (({} : Settings).declare (front ++ ',' :: body)) {}
      = ⟨"red".toList, .dotted, 0.5, "a]".toList, .vlines⟩ := by
    decide +kernel
  exact ⟨front, body, _, _, rfl, rfl, fits, rfl, rfl, same.trans resolved, resolved⟩

end Style

end LatexFigures
