import LatexFigures.Proofs.Rules.Replacing
import LatexFigures.Rules.Standard

/-! The macros of running text: how each is written, the html that its rule makes of it, and why no
other rule sees it. A use of a macro holds one backslash, at the beginning of the key by which its
rule finds it, and no two keys can stand in one place.
-/

namespace LatexFigures.TextRules

-----------------------------------------------------------------------------------------
-- Vocabulary
-----------------------------------------------------------------------------------------

/-- A character that no rule gives a meaning. -/
def isPlain (c : Char) : Bool := !"\\\x7b\x7d-`'^".toList.contains c

/-- A text of plain characters, which may be empty. -/
structure Words where
  text : Text
  plain : text.all isPlain = true

/-- A number in decimal digits. -/
structure Digits where
  text : Text
  digits : text.all Char.isDigit = true
  nonempty : text ≠ []

/-- The macros with one argument in braces. -/
inductive Call
  | emph | img | set | youtube
deriving DecidableEq

/-- The fonts for the text behind a switch in braces. -/
inductive Font
  | bf | rm | sl | it | tt
deriving DecidableEq

/-- The macros that stand for a name. -/
inductive Logo
  | tex | latex
deriving DecidableEq

/-- The macros that have rules of their own. -/
inductive Macro
  | call (c : Call)
  | switch (f : Font)
  | space
  | cite
  | link
  | logo (l : Logo)
deriving DecidableEq

/-- A macro with its arguments. -/
inductive Use
  | call (c : Call) (argument : Words)
  | switch (f : Font) (argument : Words)
  | space (length : Option Words)
  | cite (page : Digits) (argument : Words)
  | link (address text : Words)
  | logo (l : Logo)

def Call.name : Call → String
  | .emph => "\\emph"
  | .img => "\\img"
  | .set => "\\set"
  | .youtube => "\\youtube"

def Font.name : Font → String
  | .bf => "\\bf"
  | .rm => "\\rm"
  | .sl => "\\sl"
  | .it => "\\it"
  | .tt => "\\tt"

def Logo.name : Logo → String
  | .tex => "\\TeX"
  | .latex => "\\LaTeX"

/-- The html in front of the argument and behind it. -/
def Call.html : Call → Text × Text
  | .emph | .set => ("<i>".toList, "</i>".toList)
  | .img =>
      ("<div style=\"width: 100%;text-align: center;\">".toList ++ "<img src=\"".toList,
        "\"></div>".toList)
  | .youtube =>
      ("<div style=\"width: 100%;text-align: center;\"><iframe width=\"560\" ".toList
        ++ "height=\"315\" src=\"https://www.youtube.com/embed/".toList,
      "\" frameborder=\"0\" allowfullscreen></iframe></div>".toList)

/-- The html in front of the argument and behind it. -/
def Font.html : Font → Text × Text
  | .bf => ("<b>".toList, "</b>".toList)
  | .sl | .it => ("<i>".toList, "</i>".toList)
  | .rm => ("<span class=\"rm\">".toList, "</span>".toList)
  | .tt => ("<span class=\"tt\">".toList, "</span>".toList)

namespace Macro

/-- What stands in front of the key. -/
def lead : Macro → Text
  | .switch _ => ['\x7b']
  | _ => []

/-- The text by which the rule finds its macro. -/
def key : Macro → Text
  | .call c => (c.name ++ "\x7b").toList
  | .switch f => (f.name ++ " ").toList
  | .space => "\\vspace".toList
  | .cite => "\\cite[".toList
  | .link => "\\href\x7b".toList
  | .logo l => l.name.toList

def form : Macro → Form
  | .call c => macroCall c.name
  | .switch f => fontSwitch f.name
  | .space => verticalSpace
  | .cite => citation
  | .link => TextRules.link
  | .logo l => TextRules.logo l.name

def replacement : Macro → Replacement
  | .call c => .template (c.html.1 ++ "$\x7b1\x7d".toList ++ c.html.2)
  | .switch f => .template (f.html.1 ++ "$\x7b1\x7d".toList ++ f.html.2)
  | .space => .literal "<br>".toList
  | .cite => .template "<a class=\"cite\" href=\"#$\x7b2\x7d\">[p$\x7b1\x7d]</a>".toList
  | .link => .template "<a href=\"$\x7b1\x7d\">$\x7b2\x7d</a>".toList
  | .logo l => .literal ('$' :: l.name.toList ++ ['$'])

/-- The name of the rule. -/
def ruleName : Macro → String
  | .call .emph => "emph"
  | .call .img => "img"
  | .call .set => "set"
  | .call .youtube => "youtube"
  | .switch .bf => "bf"
  | .switch .rm => "rm"
  | .switch .sl => "sl"
  | .switch .it => "it"
  | .switch .tt => "tt"
  | .space => "vspace"
  | .cite => "cite"
  | .link => "href"
  | .logo .tex => "TeX"
  | .logo .latex => "LaTeX"

def rule (m : Macro) : TextRule := ⟨m.ruleName, .form m.form, m.replacement⟩

/-- The macros whose rules come before those for dashes and quotation marks. -/
def early : List Macro :=
  [.call .emph, .switch .bf, .switch .rm, .switch .sl, .switch .it, .switch .tt]

/-- The macros whose rules come last. -/
def late : List Macro := [.space, .cite, .link, .call .img, .call .set, .call .youtube]

/-- All macros, in the order of their rules. -/
def all : List Macro := early ++ .logo .tex :: .logo .latex :: late

theorem mem_all (m : Macro) : m ∈ all := by
  cases m with
  | call c => cases c <;> decide
  | switch f => cases f <;> decide
  | logo l => cases l <;> decide
  | _ => decide

end Macro

/-- The rules for dashes and quotation marks. -/
def dashes : List TextRule :=
  [ literalRule "mdash" [.text "---".toList] "&mdash;",
    literalRule "ndash" [.text "--".toList] "&ndash;",
    literalRule "openq" [.text "``".toList] "&ldquo;",
    literalRule "closeq" [.text "''".toList] "&rdquo;" ]

def euler : TextRule := literalRule "euler" [.text "Euler^".toList] "exp"

/-- The rules in their order: each macro has one. -/
theorem standardText_eq
    : standardText
      = Macro.early.map Macro.rule
        ++ dashes
        ++ [Macro.rule (.logo .tex), Macro.rule (.logo .latex)]
        ++ Macro.late.map Macro.rule
        ++ [euler] := by
  have img : Call.img.html.1 ++ "$\x7b1\x7d".toList ++ Call.img.html.2
      = "<div style=\"width: 100%;text-align: center;\">".toList
        ++ "<img src=\"$\x7b1\x7d\"></div>".toList := by
    decide +kernel
  have youtube : Call.youtube.html.1 ++ "$\x7b1\x7d".toList ++ Call.youtube.html.2
      = "<div style=\"width: 100%;text-align: center;\"><iframe width=\"560\" height=\"315\" ".toList
        ++ "src=\"https://www.youtube.com/embed/$\x7b1\x7d\" frameborder=\"0\" ".toList
        ++ "allowfullscreen></iframe></div>".toList := by
    decide +kernel
  unfold standardText templateRule
  simp only [String.toList_append]
  rw [← youtube, ← img]
  rfl

/-- Where no header stands, the text rules decide alone. -/
theorem standard_apply_eq {s : Text}
    (noHeader : ∀ (header : HeaderRule) contents, header.apply s contents = contents)
    : standard.apply s
      = euler.apply
          ((Macro.late.map Macro.rule).foldl (fun contents rule => rule.apply contents)
            ((Macro.logo .latex).rule.apply ((Macro.logo .tex).rule.apply
              (dashes.foldl (fun contents rule => rule.apply contents)
                ((Macro.early.map Macro.rule).foldl
                  (fun contents rule => rule.apply contents) s))))) := by
  have headers (contents : Text)
      : standard.headers.foldl (fun contents rule => rule.apply s contents) contents = contents :=
    List.foldl_fixed' (fun header => noHeader header contents) _
  rw [apply, headers]
  change standardText.foldl _ _ = _
  rw [standardText_eq]
  simp only [List.foldl_append, List.foldl_cons, List.foldl_nil]

/-- Without a hat nothing is raised to a power. -/
theorem euler_apply {s : Text} (noHat : '^' ∉ s) : euler.apply s = s :=
  TextRule.apply_of_not_mem (by decide : '^' ∈ "Euler^".toList) ⟨rfl, by decide, rfl⟩ noHat

-----------------------------------------------------------------------------------------
-- Uses in a text
-----------------------------------------------------------------------------------------

namespace Use

def kind : Use → Macro
  | .call c _ => .call c
  | .switch f _ => .switch f
  | .space _ => .space
  | .cite .. => .cite
  | .link .. => .link
  | .logo l => .logo l

/-- What stands behind the key. -/
def arguments : Use → Text
  | .call _ s | .switch _ s => s.text ++ ['\x7d']
  | .space none => []
  | .space (some s) => '\x7b' :: s.text ++ ['\x7d']
  | .cite d s => d.text ++ ("]\x7b".toList ++ (s.text ++ ['\x7d']))
  | .link s t => s.text ++ ['\x7d'] ++ (['\x7b'] ++ (t.text ++ ['\x7d']))
  | .logo _ => []

/-- The use in a text. -/
def written (u : Use) : Text := u.kind.lead ++ u.kind.key ++ u.arguments

/-- The texts of the groups that the rule finds. -/
def groups : Use → List (Option Text)
  | .call _ s | .switch _ s => [some s.text]
  | .space none => [none]
  | .space (some s) => [some ('\x7b' :: s.text ++ ['\x7d'])]
  | .cite d s => [some d.text, some s.text]
  | .link s t => [some s.text, some t.text]
  | .logo _ => []

/-- What the rule makes of it. -/
def html : Use → Text
  | .call c s => c.html.1 ++ s.text ++ c.html.2
  | .switch f s => f.html.1 ++ s.text ++ f.html.2
  | .space _ => "<br>".toList
  | .cite d s =>
      "<a class=\"cite\" href=\"#".toList
        ++ (s.text ++ ("\">[p".toList ++ (d.text ++ "]</a>".toList)))
  | .link s t => "<a href=\"".toList ++ (s.text ++ ("\">".toList ++ (t.text ++ "</a>".toList)))
  | .logo l => '$' :: l.name.toList ++ ['$']

end Use

-----------------------------------------------------------------------------------------
-- What rules find
-----------------------------------------------------------------------------------------

theorem Words.not_mem (s : Words) {c : Char} (special : isPlain c = false) : c ∉ s.text := by
  intro inside
  rw [List.all_eq_true.mp s.plain c inside] at special
  cases special

theorem Digits.not_mem (d : Digits) {c : Char} (other : c.isDigit = false) : c ∉ d.text := by
  intro inside
  rw [List.all_eq_true.mp d.digits c inside] at other
  cases other

/-- The text is a backslash with a letter and no marks behind it. -/
def isKey : Text → Bool
  | '\\' :: c :: more => c.isAlpha && (c :: more).all (!"\\-`'^".toList.contains ·)
  | _ => false

theorem Macro.isKey_key (m : Macro) : isKey m.key = true := by
  have each : all.all (isKey ·.key) = true := by decide +kernel
  exact List.all_eq_true.mp each m m.mem_all

/-- A letter follows the backslash, and there are no further marks. -/
theorem Macro.exists_key_eq (m : Macro)
    : ∃ c more, m.key = '\\' :: c :: more
        ∧ c.isAlpha = true
        ∧ ∀ mark ∈ "\\-`'^".toList, mark ∉ c :: more := by
  have shape := m.isKey_key
  unfold isKey at shape
  split at shape
  · rename_i c more key
    obtain ⟨letter, free⟩ := Bool.and_eq_true_iff.mp shape
    refine ⟨c, more, key, letter, fun mark special inside => ?_⟩
    have plain := List.all_eq_true.mp free mark inside
    simp only [Bool.not_eq_true', List.contains_eq_mem, decide_eq_false_iff_not] at plain
    exact plain special
  · cases shape

/-- The one backslash of a macro begins its key. -/
theorem Macro.key_eq (m : Macro) : ∃ name, m.key = '\\' :: name ∧ '\\' ∉ name := by
  obtain ⟨c, more, key, -, free⟩ := m.exists_key_eq
  exact ⟨c :: more, key, free _ (by simp)⟩

theorem Macro.exists_tail_eq (m : Macro)
    : ∃ c more, m.key.tail = c :: more ∧ c.isAlpha = true := by
  obtain ⟨c, more, key, letter, -⟩ := m.exists_key_eq
  exact ⟨c, more, by rw [key, List.tail_cons], letter⟩

theorem Macro.isSolid (m : Macro) : m.form.isSolid = true := by
  cases m with
  | call c => cases c <;> decide
  | switch f => cases f <;> decide
  | logo l => cases l <;> decide
  | _ => decide

theorem Macro.looksFor (m : Macro) : m.rule.LooksFor m.form where
  target := rfl
  solid := m.isSolid
  fixed := by cases m <;> rfl

namespace Use

/-- The form of a macro is read off a use of it, and of no more than that, unless a logo takes a
backslash along.
-/
theorem reads_written (u : Use) (other : ∀ l, u ≠ .logo l) {rest : Text}
    (ends : u.kind = .space → rest.head? ≠ some '\x7b')
    : u.kind.form.Reads (u.written ++ rest) u.written.length u.groups := by
  have brace (s : Words) : '\x7d' ∉ s.text := s.not_mem (by decide)
  have contents (s : Words) (rest : Text)
      : Form.Reads [.contents] (s.text ++ ['\x7d'] ++ rest) (s.text ++ ['\x7d']).length
          [some s.text] :=
    .singleton (FormPart.read?_contents (brace s) rest)
  cases u with
  | call c s =>
      exact .append (FormPart.read?_text _ _) (contents s rest)
  | switch f s =>
      obtain ⟨name, key, -⟩ := (Macro.switch f).key_eq
      have start : ∀ d ∈ ((Macro.switch f).key ++ (s.text ++ ['\x7d']) ++ rest).head?,
          d ≠ '\x7b' := by
        rw [key]
        simp
      have opening := FormPart.read?_many (c := '\x7b') (s := ['\x7b']) (by simp) start
      have whole : Use.written (.switch f s) ++ rest
          = ['\x7b'] ++ ((Macro.switch f).key ++ (s.text ++ ['\x7d'])) ++ rest := rfl
      rw [whole]
      exact .append opening (.append (FormPart.read?_text _ _) (contents s rest))
  | space length =>
      cases length with
      | none =>
          have behind : Form.Reads [.optionalBraces] ([] ++ rest) 0 [none] :=
            .singleton (FormPart.read?_optionalBraces_of_head (ends rfl))
          exact .append (FormPart.read?_text _ _) behind
      | some s =>
          exact .append (FormPart.read?_text _ _)
            (.singleton (FormPart.read?_optionalBraces (brace s) rest))
  | cite d s =>
      have page
          : FormPart.number.read? (d.text ++ ("]\x7b".toList ++ (s.text ++ ['\x7d']) ++ rest))
            = some (d.text.length, [some d.text]) :=
        FormPart.read?_number (List.all_eq_true.mp d.digits) d.nonempty (by simp)
      exact .append (FormPart.read?_text _ _)
        (.append page (.append (FormPart.read?_text _ _) (contents s rest)))
  | link s t =>
      exact .append (FormPart.read?_text _ _)
        (.append (FormPart.read?_contents (brace s) _)
          (.append (FormPart.read?_text _ _) (contents t rest)))
  | logo l => exact absurd rfl (other l)

end Use

-----------------------------------------------------------------------------------------
-- Html
-----------------------------------------------------------------------------------------

namespace Macro

/-- The html around the arguments. -/
def frame : Macro → List Text
  | .call c => [c.html.1, c.html.2]
  | .switch f => [f.html.1, f.html.2]
  | .space => ["<br>".toList]
  | .cite => ["<a class=\"cite\" href=\"#".toList, "\">[p".toList, "]</a>".toList]
  | .link => ["<a href=\"".toList, "\">".toList, "</a>".toList]
  | .logo l => ['$' :: l.name.toList ++ ['$']]

/-- Characters with a meaning to rules that are not in the frame. -/
def hidden (m : Macro) : Text :=
  (if m ∈ late then [] else ['-'])
    ++ (match m with
      | .logo _ => []
      | _ => ['\\', '$'])
    ++ "`'^\x7b".toList

theorem not_mem_frame {m : Macro} {c : Char} (hide : c ∈ m.hidden) {s : Text} (part : s ∈ m.frame)
    : c ∉ s := by
  have each
      : (all.all fun m => m.frame.all fun s => s.all fun c => !m.hidden.contains c) = true := by
    decide +kernel
  intro inside
  have parts := List.all_eq_true.mp each m m.mem_all
  have plain := List.all_eq_true.mp (List.all_eq_true.mp parts s part) c inside
  simp [hide] at plain

variable {m : Macro}

theorem mem_hidden {c : Char} (mark : c ∈ "`'^\x7b".toList) : c ∈ m.hidden :=
  List.mem_append_right _ mark

theorem dash_mem_hidden (notLate : m ∉ late) : '-' ∈ m.hidden := by
  simp [hidden, notLate]

theorem backslash_mem_hidden (noLogo : ∀ l, m ≠ .logo l) : '\\' ∈ m.hidden ∧ '$' ∈ m.hidden := by
  cases m with
  | logo l => exact absurd rfl (noLogo l)
  | _ => simp [hidden]

end Macro

namespace Use

/-- The rule of a macro makes the html of a use out of its groups. -/
theorem inserted_groups (u : Use) (whole : Text)
    : u.kind.rule.inserted (some whole :: u.groups) = u.html := by
  have plain (noLogo : ∀ l, u.kind ≠ .logo l) : ∀ s ∈ u.kind.frame, '$' ∉ s :=
    fun s => Macro.not_mem_frame (Macro.backslash_mem_hidden noLogo).2
  cases u with
  | call c s =>
      have around := plain nofun
      exact TemplatePart.expand_group (around _ (.head _)) (around _ (.tail _ (.head _))) _ whole
        s.text
  | switch f s =>
      have around := plain nofun
      exact TemplatePart.expand_group (around _ (.head _)) (around _ (.tail _ (.head _))) _ whole
        s.text
  | space | logo | cite | link => rfl

end Use

-----------------------------------------------------------------------------------------
-- What rules do not find
-----------------------------------------------------------------------------------------

namespace Macro

/-- Of two macros neither key begins the other. -/
theorem apart {m other : Macro} (different : m ≠ other)
    : ¬ m.key <+: other.key ∧ ¬ other.key <+: m.key := by
  have each : ∀ m ∈ all, ∀ other ∈ all, m ≠ other → ¬ m.key <+: other.key := by
    decide +kernel
  exact ⟨each m m.mem_all other other.mem_all different,
    each other other.mem_all m m.mem_all different.symm⟩

/-- The marks of environments are no macros either. -/
theorem apart_mark (m : Macro)
    : (¬ "\\begin\x7b".toList <+: m.key ∧ ¬ m.key <+: "\\begin\x7b".toList)
      ∧ ¬ "\\end\x7b".toList <+: m.key ∧ ¬ m.key <+: "\\end\x7b".toList := by
  have each : ∀ m ∈ all,
      (¬ "\\begin\x7b".toList <+: m.key ∧ ¬ m.key <+: "\\begin\x7b".toList)
      ∧ ¬ "\\end\x7b".toList <+: m.key ∧ ¬ m.key <+: "\\end\x7b".toList := by
    decide +kernel
  exact each m m.mem_all

theorem not_mem_key {c : Char} (mark : c ∈ "-`'^".toList) (m : Macro) : c ∉ m.key := by
  obtain ⟨d, more, key, -, free⟩ := m.exists_key_eq
  have other : c ≠ '\\' := by
    rintro rfl
    simp at mark
  rw [key, List.mem_cons, not_or]
  exact ⟨other, free c (List.mem_cons_of_mem _ mark)⟩

theorem not_mem_lead {c : Char} (mark : c ∈ "\\-`'^".toList) (m : Macro) : c ∉ m.lead := by
  cases m with
  | switch f =>
      intro inside
      obtain rfl := List.mem_singleton.mp inside
      simp at mark
  | _ => simp [lead]

/-- A rule takes a text over in which its key does not begin. Braces in front of a switch belong to
it.
-/
theorem skips {m : Macro} {s : Text} (none : Text.BeginsNo m.key s)
    (last : s.getLast? ≠ some '\x7b')
    : m.form.Skips s := by
  cases m with
  | switch f => exact Form.skips_many none last
  | _ => exact Form.skips_text none

/-- Without a backslash there is no macro. -/
theorem read?_eq_none (m : Macro) {s : Text} (absent : '\\' ∉ s) : m.form.read? s = none := by
  have unkeyed {back : Text} (suffix : back <:+ s) : ¬ m.key <+: back := by
    obtain ⟨name, key, -⟩ := m.key_eq
    rw [key]
    exact fun start => absent (suffix.mem (start.mem (by simp)))
  cases m with
  | switch f =>
      exact Form.read?_many_eq_none
        (Form.read?_text_eq_none (unkeyed (List.dropWhile_suffix _)))
  | _ => exact Form.read?_text_eq_none (unkeyed List.suffix_rfl)

theorem apply_of_not_mem (m : Macro) {s : Text} (absent : '\\' ∉ s) : m.rule.apply s = s :=
  TextRule.apply_of_unread m.looksFor fun _ suffix =>
    m.read?_eq_none fun inside => absent (suffix.mem inside)

end Macro

namespace Use

variable (u : Use) {c : Char}

/-- The use without its backslash. -/
def bare : Text := u.kind.key.tail ++ u.arguments

/-- Marks are neither plain nor digits nor brackets. -/
theorem foreign_of_mark (mark : c ∈ "\\-`'^".toList)
    : isPlain c = false ∧ c.isDigit = false ∧ c ∉ "\x7b\x7d[]".toList := by
  have cases : c = '\\' ∨ c = '-' ∨ c = '`' ∨ c = '\'' ∨ c = '^' := by simpa using mark
  rcases cases with rfl | rfl | rfl | rfl | rfl <;> decide

/-- Marks and braces aside all is plain in arguments. -/
theorem not_mem_arguments (mark : c ∈ "\\-`'^".toList) : c ∉ u.arguments := by
  obtain ⟨notPlain, noDigit, noBracket⟩ := foreign_of_mark mark
  have absent (s : Words) : c ∉ s.text := s.not_mem notPlain
  have digits (d : Digits) : c ∉ d.text := d.not_mem noDigit
  simp at noBracket
  cases u with
  | space length => cases length <;> simp [arguments, absent, noBracket]
  | _ => simp [arguments, absent, digits, noBracket]

theorem not_mem_written (mark : c ∈ "-`'^".toList) : c ∉ u.written := by
  have more : c ∈ "\\-`'^".toList := List.mem_cons_of_mem _ mark
  simp only [written, List.mem_append, not_or]
  exact ⟨⟨u.kind.not_mem_lead more, u.kind.not_mem_key mark⟩, u.not_mem_arguments more⟩

theorem not_mem_bare (mark : c ∈ "\\-`'^".toList) : c ∉ u.bare := by
  obtain ⟨d, more, key, -, free⟩ := u.kind.exists_key_eq
  have absent : c ∉ u.kind.key.tail := by
    rw [key]
    exact free c mark
  simp only [bare, List.mem_append, not_or]
  exact ⟨absent, u.not_mem_arguments mark⟩

/-- Html holds no characters but those of its frame and of words and numbers. -/
theorem not_mem_html (hide : c ∈ u.kind.hidden) (special : isPlain c = false)
    (noDigit : c.isDigit = false)
    : c ∉ u.html := by
  have outside {s : Text} (part : s ∈ u.kind.frame) : c ∉ s := Macro.not_mem_frame hide part
  have absent (s : Words) : c ∉ s.text := s.not_mem special
  have digits (d : Digits) : c ∉ d.text := d.not_mem noDigit
  cases u with
  | call m s =>
      exact List.not_mem_append (List.not_mem_append (outside (.head _)) (absent s))
        (outside (.tail _ (.head _)))
  | switch f s =>
      exact List.not_mem_append (List.not_mem_append (outside (.head _)) (absent s))
        (outside (.tail _ (.head _)))
  | space length => exact outside (.head _)
  | cite d s =>
      exact List.not_mem_append (outside (.head _)) (List.not_mem_append (absent s)
        (List.not_mem_append (outside (.tail _ (.head _))) (List.not_mem_append (digits d)
          (outside (.tail _ (.tail _ (.head _)))))))
  | link s t =>
      exact List.not_mem_append (outside (.head _)) (List.not_mem_append (absent s)
        (List.not_mem_append (outside (.tail _ (.head _))) (List.not_mem_append (absent t)
          (outside (.tail _ (.tail _ (.head _)))))))
  | logo l => exact outside (.head _)

/-- Html begins with a mark of its own: no letter, no backslash and no brace. -/
theorem exists_html_eq
    : ∃ c more, u.html = c :: more ∧ c.isAlpha = false ∧ c ≠ '\\' ∧ c ≠ '\x7b' := by
  have shape : ∃ c more, u.html = c :: more ∧ (c = '<' ∨ c = '$') := by
    cases u with
    | call m s => cases m <;> exact ⟨_, _, rfl, .inl rfl⟩
    | switch f s => cases f <;> exact ⟨_, _, rfl, .inl rfl⟩
    | logo l => exact ⟨_, _, rfl, .inr rfl⟩
    | _ => exact ⟨_, _, rfl, .inl rfl⟩
  obtain ⟨c, more, same, rfl | rfl⟩ := shape
  · exact ⟨_, _, same, by decide⟩
  · exact ⟨_, _, same, by decide⟩

theorem getLast?_arguments
    : u.arguments.getLast? = some '\x7d' ∨ u.arguments = [] ∧ '\x7b' ∉ u.kind.key := by
  cases u with
  | space length =>
      cases length with
      | none => exact .inr ⟨rfl, by decide⟩
      | some s => exact .inl (by simp [arguments, List.getLast?_cons])
  | logo l => exact .inr ⟨rfl, by cases l <;> decide⟩
  | _ => exact .inl (by simp [arguments, List.getLast?_append, List.getLast?_cons])

/-- No opening brace comes last, with the backslash or without it. -/
theorem getLast?_written
    : u.written.getLast? ≠ some '\x7b' ∧ u.bare.getLast? ≠ some '\x7b' := by
  rcases u.getLast?_arguments with brace | ⟨none, free⟩
  · simp [written, bare, List.getLast?_append, brace]
  · obtain ⟨name, key, -⟩ := u.kind.key_eq
    rw [written, bare, none, List.append_nil, List.append_nil,
      List.getLast?_append_of_ne_nil _ (by simp [key])]
    exact ⟨fun last => free (List.mem_of_getLast? last),
      fun last => free (List.mem_of_mem_tail (List.mem_of_getLast? last))⟩

variable {key name : Text} (start : key = '\\' :: name)
  (apart : ¬ key <+: u.kind.key ∧ ¬ u.kind.key <+: key)
include start apart

/-- Keys of others do not begin in a use. -/
theorem beginsNo_written : Text.BeginsNo key u.written := by
  have lead : '\\' ∉ u.kind.lead := u.kind.not_mem_lead (by decide)
  have behind : '\\' ∉ u.bare := u.not_mem_bare (by decide)
  rw [written, List.append_assoc]
  refine .append ?_ (.of_apart apart ?_)
  · rw [start]
    exact .of_not_mem lead
  · rw [start]
    exact .of_not_mem behind

theorem beginsNo_html : Text.BeginsNo key u.html := by
  by_cases logo : ∃ l, u = .logo l
  · obtain ⟨l, rfl⟩ := logo
    obtain ⟨rest, same, free⟩ := (Macro.logo l).key_eq
    have behind : '\\' ∉ (Macro.logo l).key.tail ++ ['$'] := by
      rw [same]
      simpa using free
    have mark : Use.html (.logo l) = ['$'] ++ ((Macro.logo l).key ++ ['$']) := rfl
    rw [mark]
    refine .append ?_ (.of_apart apart ?_)
    · rw [start]
      exact .of_not_mem (by decide)
    · rw [start]
      exact .of_not_mem behind
  · have noLogo : ∀ l, u.kind ≠ .logo l := by
      rintro l same
      cases u <;> cases same
      exact logo ⟨l, rfl⟩
    rw [start]
    exact .of_not_mem (u.not_mem_html (Macro.backslash_mem_hidden noLogo).1 (by decide)
      (by decide))

end Use

end LatexFigures.TextRules
