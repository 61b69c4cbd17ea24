import LatexFigures.Rules.Basic

/-! The rules that every document starts with: inline macros, dashes and quotation marks,
headers of theorem-like blocks, and commands that leave no trace.
-/

namespace LatexFigures.TextRules

/-- The macro (name) with one argument in braces. -/
def macroCall (name : String) : Form := [.text (name ++ "\x7b").toList, .contents]

/-- Text behind a font switch up to the closing brace, with any number of braces before it. -/
def fontSwitch (name : String) : Form :=
  [.many '\x7b', .text (name ++ " ").toList, .contents]

/-- The macro (name) and one backslash that may follow it. -/
def logo (name : String) : Form := [.text name.toList, .optional '\\']

/-- Vertical space with or without its length. -/
def verticalSpace : Form := [.text "\\vspace".toList, .optionalBraces]

/-- A link with its address and its text. -/
def link : Form := macroCall "\\href" ++ [.text ['\x7b'], .contents]

/-- A citation of a page. -/
def citation : Form := [.text "\\cite[".toList, .number, .text "]\x7b".toList, .contents]

/-- Replaces texts of a form by fixed text. -/
def literalRule (name : String) (form : Form) (text : String) : TextRule :=
  ⟨name, .form form, .literal text.toList⟩

/-- Replaces texts of a form by a template. -/
def templateRule (name : String) (form : Form) (template : String) : TextRule :=
  ⟨name, .form form, .template template.toList⟩

/-- The text rules. Long dashes come before short ones. -/
def standardText : List TextRule :=
  [ templateRule "emph" (macroCall "\\emph") "<i>$\x7b1\x7d</i>",
    templateRule "bf" (fontSwitch "\\bf") "<b>$\x7b1\x7d</b>",
    templateRule "rm" (fontSwitch "\\rm") "<span class=\"rm\">$\x7b1\x7d</span>",
    templateRule "sl" (fontSwitch "\\sl") "<i>$\x7b1\x7d</i>",
    templateRule "it" (fontSwitch "\\it") "<i>$\x7b1\x7d</i>",
    templateRule "tt" (fontSwitch "\\tt") "<span class=\"tt\">$\x7b1\x7d</span>",
    literalRule "mdash" [.text "---".toList] "&mdash;",
    literalRule "ndash" [.text "--".toList] "&ndash;",
    literalRule "openq" [.text "``".toList] "&ldquo;",
    literalRule "closeq" [.text "''".toList] "&rdquo;",
    literalRule "TeX" (logo "\\TeX") "$\\TeX$",
    literalRule "LaTeX" (logo "\\LaTeX") "$\\LaTeX$",
    literalRule "vspace" verticalSpace "<br>",
    templateRule "cite" citation "<a class=\"cite\" href=\"#$\x7b2\x7d\">[p$\x7b1\x7d]</a>",
    templateRule "href" link "<a href=\"$\x7b1\x7d\">$\x7b2\x7d</a>",
    templateRule "img" (macroCall "\\img")
      ("<div style=\"width: 100%;text-align: center;\">"
        ++ "<img src=\"$\x7b1\x7d\"></div>"),
    templateRule "set" (macroCall "\\set") "<i>$\x7b1\x7d</i>",
    templateRule "youtube" (macroCall "\\youtube")
      ("<div style=\"width: 100%;text-align: center;\"><iframe width=\"560\" height=\"315\" "
        ++ "src=\"https://www.youtube.com/embed/$\x7b1\x7d\" frameborder=\"0\" "
        ++ "allowfullscreen></iframe></div>"),
    literalRule "euler" [.text "Euler^".toList] "exp" ]

/-- The block headers. -/
def standardHeaders : List HeaderRule :=
  let title (name title : String) : HeaderRule :=
    ⟨name, ("<h4>" ++ title ++ "</h4>").toList, []⟩
  [ title "claim" "Claim",
    title "corollary" "Corollary",
    title "definition" "Definition",
    title "example" "Example",
    title "problem" "Problem",
    title "solution" "Solution",
    title "theorem" "Theorem",
    ⟨"quotation", "<p class=\"quotation\">".toList, "</p>".toList⟩,
    ⟨"proof", "<h4>Proof</h4>".toList, "$\\qed$".toList⟩ ]

/-- The fragments to leave out: comments, and whatever contains one of these commands. -/
def standardIgnored : List IgnoredMark :=
  .comment
    :: ([ "\\begin\x7bdocument\x7d", "\\end\x7bdocument\x7d",
          "\\begin\x7binteractive\x7d", "\\end\x7binteractive\x7d",
          "\\usepackage", "\\documentclass", "\\tableofcontents", "\\author", "\\date",
          "\\maketitle", "\\title", "\\pagestyle", "\\smallskip", "\\medskip", "\\bigskip",
          "\\nobreak", "\\begin\x7bcenter\x7d", "\\end\x7bcenter\x7d" ].map
        fun command => .command command.toList)

/-- The rules that every document starts with. -/
def standard : TextRules := ⟨standardText, standardHeaders, standardIgnored⟩

end LatexFigures.TextRules
