import Mathlib.Data.List.Induction
import LatexFigures.Settings.Basic
import LatexFigures.Proofs.Number.UnitScale
import LatexFigures.Proofs.Text.Cutting
import LatexFigures.Proofs.Text.Lines

/-! What declarations leave in the settings. Each field holds the last value that an entry gives it,
and bodies that follow one another are one body.
-/

namespace LatexFigures.Settings

open Number

-----------------------------------------------------------------------------------------
-- Fields
-----------------------------------------------------------------------------------------

/-- A field of the settings, with the type of what it holds. -/
inductive Field : Type → Type
  | unit : Field UnitScale
  | xunit : Field UnitScale
  | yunit : Field UnitScale
  | runit : Field UnitScale
  | linecolor : Field (Option Text)
  | linestyle : Field (Option LineStyle)
  | linewidth : Field (Option Float)
  | fillcolor : Field (Option Text)
  | fillstyle : Field (Option FillStyle)

namespace Field

variable {α : Type}

/-- What the settings hold in the field. -/
def get : Field α → Settings → α
  | unit => Settings.unit
  | xunit => Settings.xunit
  | yunit => Settings.yunit
  | runit => Settings.runit
  | linecolor => Settings.linecolor
  | linestyle => Settings.linestyle
  | linewidth => Settings.linewidth
  | fillcolor => Settings.fillcolor
  | fillstyle => Settings.fillstyle

/-- Entries with this key are for the field. What begins with the name of a unit is for that one,
and what begins with the common name is for all of them.
-/
def isTarget : Field α → Text → Bool
  | unit, key => "unit".toList.isPrefixOf key
  | xunit, key => "unit".toList.isPrefixOf key || "xunit".toList.isPrefixOf key
  | yunit, key => "unit".toList.isPrefixOf key || "yunit".toList.isPrefixOf key
  | runit, key => "unit".toList.isPrefixOf key || "runit".toList.isPrefixOf key
  | linecolor, key => key = "linecolor".toList
  | linestyle, key => key = "linestyle".toList
  | linewidth, key => key = "linewidth".toList
  | fillcolor, key => key = "fillcolor".toList
  | fillstyle, key => key = "fillstyle".toList

/-- What the field holds behind an entry with this value, if the value is readable. -/
def read? : Field α → Text → Option α
  | unit, value => scale? value
  | xunit, value => scale? value
  | yunit, value => scale? value
  | runit, value => scale? value
  | linecolor, value => some (some value)
  | linestyle, value => (LineStyle.named? value).map some
  | linewidth, value => (Literal.finite? value).map some
  | fillcolor, value => some (some value)
  | fillstyle, value => (FillStyle.named? value).map some

/-- The entry gives the field this value. Its first equals sign stands between the key and the
value, and blanks around both do not count.
-/
def Gives (field : Field α) (entry : Text) (value : α) : Prop :=
  ∃ key text : Text,
    entry = key ++ '=' :: text
    ∧ '=' ∉ key
    ∧ field.isTarget key.trim = true
    ∧ field.read? text.trim = some value

/-- The last of the entries that give the field a value gives it (after); if there are none, that is
the same as (before).
-/
def LastGiven (field : Field α) (entries : List Text) (before after : α) : Prop :=
  (∃ front entry back,
    entries = front ++ entry :: back
    ∧ field.Gives entry after
    ∧ ∀ later ∈ back, ∀ value, ¬ field.Gives later value)
  ∨ (after = before ∧ ∀ entry ∈ entries, ∀ value, ¬ field.Gives entry value)

end Field

-----------------------------------------------------------------------------------------
-- One assignment
-----------------------------------------------------------------------------------------

/-- The keys that are for one style field each. -/
def styleKeys : List Text :=
  ["linecolor", "linestyle", "linewidth", "fillcolor", "fillstyle"].map String.toList

namespace Field

variable {α : Type} (field : Field α) (settings : Settings)

theorem get_assign_of_mem {key : Text} (style : key ∈ styleKeys) (value : Text)
    : field.get (settings.assign key value)
      = if field.isTarget key then (field.read? value).getD (field.get settings)
        else field.get settings := by
  have kept {β : Type} (o p : Option β) : o.or p = (o.map some).getD p := by cases o <;> rfl
  simp only [styleKeys, List.map_cons, List.map_nil, List.mem_cons, List.not_mem_nil, or_false]
    at style
  rcases style with rfl | rfl | rfl | rfl | rfl <;> cases field <;> first | rfl | exact kept _ _

/-- A text begins with one of two names at most if neither begins with the other. -/
theorem isPrefixOf_eq_false {name other s : Text} (here : name.isPrefixOf s = true)
    (apart : ¬ name <+: other ∧ ¬ other <+: name)
    : other.isPrefixOf s = false := by
  refine Bool.eq_false_iff.mpr fun there => ?_
  rw [List.isPrefixOf_iff_prefix] at here there
  rcases List.prefix_or_prefix_of_prefix here there with starts | starts
  · exact apart.1 starts
  · exact apart.2 starts

/-- Keys of units are told apart by how they begin, in the order in which they are tried. -/
theorem get_assign_of_not_mem {key : Text} (other : key ∉ styleKeys) (value : Text)
    : field.get (settings.assign key value)
      = if field.isTarget key then (field.read? value).getD (field.get settings)
        else field.get settings := by
  simp only [styleKeys, List.map_cons, List.map_nil, List.mem_cons, List.not_mem_nil, or_false,
    not_or] at other
  obtain ⟨linecolor, linestyle, linewidth, fillcolor, fillstyle⟩ := other
  unfold assign
  simp only [linecolor, linestyle, linewidth, fillcolor, fillstyle, if_false]
  by_cases unit : "unit".toList.isPrefixOf key = true
  · cases field <;>
      simp only [isTarget, read?, unit, linecolor, linestyle, linewidth, fillcolor, fillstyle,
        Bool.true_or, decide_false, if_true, Bool.false_eq_true, if_false] <;>
      cases scale? value <;> rfl
  · by_cases xunit : "xunit".toList.isPrefixOf key = true
    · have yunit : "yunit".toList.isPrefixOf key = false := isPrefixOf_eq_false xunit (by decide)
      have runit : "runit".toList.isPrefixOf key = false := isPrefixOf_eq_false xunit (by decide)
      cases field <;>
        simp only [isTarget, unit, xunit, yunit, runit, linecolor, linestyle, linewidth, fillcolor,
          fillstyle, Bool.or_self, Bool.or_true, decide_false, if_true, Bool.false_eq_true,
          if_false] <;>
        rfl
    · by_cases yunit : "yunit".toList.isPrefixOf key = true
      · have runit : "runit".toList.isPrefixOf key = false := isPrefixOf_eq_false yunit (by decide)
        cases field <;>
          simp only [isTarget, unit, xunit, yunit, runit, linecolor, linestyle, linewidth,
            fillcolor, fillstyle, Bool.or_self, Bool.or_true, decide_false, if_true,
            Bool.false_eq_true, if_false] <;>
          rfl
      · by_cases runit : "runit".toList.isPrefixOf key = true <;>
          cases field <;>
          simp only [isTarget, unit, xunit, yunit, runit, linecolor, linestyle, linewidth,
            fillcolor, fillstyle, Bool.or_self, Bool.or_true, decide_false, if_true,
            Bool.false_eq_true, if_false] <;>
          rfl

/-- An assignment changes the fields that its key is for, if they can read the value. -/
theorem get_assign (key value : Text)
    : field.get (settings.assign key value)
      = if field.isTarget key then (field.read? value).getD (field.get settings)
        else field.get settings := by
  by_cases style : key ∈ styleKeys
  · exact field.get_assign_of_mem settings style value
  · exact field.get_assign_of_not_mem settings style value

end Field

-----------------------------------------------------------------------------------------
-- Entries one after another
-----------------------------------------------------------------------------------------

/-- Makes the declaration of one entry, if it is a pair. -/
def declareEntry (settings : Settings) (entry : Text) : Settings :=
  match entry? entry with
  | some (key, value) => settings.assign key value
  | none => settings

theorem declare_eq_foldl (settings : Settings) (body : Text)
    : settings.declare body = (Text.splitAll ',' body).foldl declareEntry settings := by
  rw [declare, entries, List.foldl_filterMap]
  congr 1
  funext settings entry
  rw [declareEntry]
  cases entry? entry <;> rfl

theorem foldl_declare (settings : Settings) (bodies : List Text)
    : bodies.foldl declare settings
      = (bodies.flatMap (Text.splitAll ',')).foldl declareEntry settings := by
  rw [List.foldl_flatMap]
  congr 1
  funext settings body
  exact settings.declare_eq_foldl body

/-- Joining bodies neither cuts an entry nor runs two together, by induction on the bodies. -/
theorem splitAll_intercalate_bodies (first : Text) (bodies : List Text)
    : Text.splitAll ',' ([','].intercalate (first :: bodies))
      = (first :: bodies).flatMap (Text.splitAll ',') := by
  induction bodies generalizing first with
  | nil => simp
  | cons second bodies ih =>
      rw [List.intercalate_cons_cons, List.append_assoc, List.singleton_append,
        Text.splitAll_append_cons, ih]
      rfl

theorem foldl_declare_eq_declare (settings : Settings) (bodies : List Text)
    : bodies.foldl declare settings = settings.declare ([','].intercalate bodies) := by
  cases bodies with
  | nil => rfl
  | cons first bodies =>
      rw [foldl_declare, ← splitAll_intercalate_bodies, ← declare_eq_foldl]

namespace Field

variable {α : Type} {field : Field α}

theorem gives_iff {entry : Text} {value : α}
    : field.Gives entry value
      ↔ ∃ pair,
          entry? entry = some pair
          ∧ field.isTarget pair.1 = true
          ∧ field.read? pair.2 = some value := by
  simp only [Gives, entry?, Option.map_eq_some_iff, Prod.exists, Text.splitFirst?_eq_some_iff]
  constructor
  · rintro ⟨key, text, rfl, free, target, readable⟩
    exact ⟨_, _, ⟨key, text, ⟨rfl, free⟩, rfl⟩, target, readable⟩
  · rintro ⟨_, _, ⟨key, text, ⟨rfl, free⟩, same⟩, target, readable⟩
    obtain ⟨rfl, rfl⟩ := Prod.mk.inj same
    exact ⟨key, text, rfl, free, target, readable⟩

/-- An entry leaves its value in the field, or what was there if it gives none. -/
theorem get_declareEntry (field : Field α) (settings : Settings) (entry : Text)
    : field.Gives entry (field.get (settings.declareEntry entry))
      ∨ (field.get (settings.declareEntry entry) = field.get settings
        ∧ ∀ value, ¬ field.Gives entry value) := by
  simp only [gives_iff, declareEntry]
  cases cut : entry? entry with
  | none => exact .inr ⟨rfl, by simp⟩
  | some pair =>
      simp only [get_assign]
      cases target : field.isTarget pair.1 with
      | false => exact .inr ⟨rfl, by simp [target]⟩
      | true =>
          cases readable : field.read? pair.2 with
          | none => exact .inr ⟨rfl, by simp [readable]⟩
          | some value => exact .inl ⟨pair, rfl, target, readable⟩

variable {entries : List Text} {before middle after : α}

/-- An entry behind others gives the last value, or the one in front stays the last. -/
theorem LastGiven.concat (h : field.LastGiven entries before middle) {entry : Text}
    (last : field.Gives entry after ∨ (after = middle ∧ ∀ value, ¬ field.Gives entry value))
    : field.LastGiven (entries ++ [entry]) before after := by
  rcases last with given | ⟨rfl, nothing⟩
  · exact .inl ⟨entries, entry, [], rfl, given, by simp⟩
  · rcases h with ⟨front, found, back, rfl, given, later⟩ | ⟨rfl, none⟩
    · refine .inl ⟨front, found, back ++ [entry], by simp, given, ?_⟩
      exact List.forall_mem_append.mpr ⟨later, List.forall_mem_singleton.mpr nothing⟩
    · exact .inr ⟨rfl, List.forall_mem_append.mpr ⟨none, List.forall_mem_singleton.mpr nothing⟩⟩

/-- Entries leave the last value that they give, by induction from the first one on. -/
theorem lastGiven_foldl (field : Field α) (settings : Settings) (entries : List Text)
    : field.LastGiven entries (field.get settings)
        (field.get (entries.foldl declareEntry settings)) := by
  induction entries using List.reverseRecOn with
  | nil => exact .inr ⟨rfl, by simp⟩
  | append_singleton entries entry ih =>
      rw [List.foldl_append]
      exact ih.concat (field.get_declareEntry _ entry)

end Field

theorem scale?_eq_some_iff {value : Text} {scale : UnitScale}
    : scale? value = some scale
      ↔ scale.raw = Length.read value
        ∧ (Length.read value).isFinite = true
        ∧ 0 < Length.read value := by
  rw [← UnitScale.ofFloat_eq_ok_iff, scale?]
  cases UnitScale.ofFloat (Length.read value) <;> simp [Except.toOption]

/-- Bodies that are declared one after another are declared as one, joined by commas. Behind them
each field holds the value that the last entry gives it which gives it one, and what it held before
if none does. The length of a unit is readable exactly if it is a finite positive number.
-/
theorem declare_last_writer (settings : Settings) (bodies : List Text)
    : bodies.foldl declare settings = settings.declare ([','].intercalate bodies)
      ∧ (∀ {α : Type} (field : Field α),
          field.LastGiven (bodies.flatMap (Text.splitAll ',')) (field.get settings)
            (field.get (bodies.foldl declare settings)))
      ∧ ∀ (value : Text) (scale : UnitScale),
          scale? value = some scale
          ↔ scale.raw = Length.read value
            ∧ (Length.read value).isFinite = true
            ∧ 0 < Length.read value := by
  refine ⟨settings.foldl_declare_eq_declare bodies, fun field => ?_,
    fun value scale => scale?_eq_some_iff⟩
  rw [foldl_declare]
  exact field.lastGiven_foldl settings _

end LatexFigures.Settings
