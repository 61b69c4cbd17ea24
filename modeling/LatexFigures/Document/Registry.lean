import LatexFigures.Environment.Scanner
import LatexFigures.Rules.Standard

/-! What a document is read with: the registered environments and the substitution rules. -/

namespace LatexFigures

/-- Environments and rules. -/
structure Registry where
  delimiters : DelimiterTable := .standard
  rules : TextRules := .standard

namespace Registry

/-- Registers an environment, whose content is passed on untouched if it is literal. -/
def addEnvironment (name : String) (literal : Bool) : Registration Registry Unit :=
  (DelimiterTable.register name literal).within (·.delimiters)
    fun registry delimiters => { registry with delimiters }

/-- Registers rules. -/
def addRules (registration : Registration TextRules Unit) : Registration Registry Unit :=
  registration.within (·.rules) fun registry rules => { registry with rules }

/-- Registers a text rule. -/
def addText (name : String) (pattern : Text) (replacement : Replacement)
    : Registration Registry Unit :=
  addRules (TextRules.addText name pattern replacement)

/-- Registers texts for the opening and the closing mark of (name). -/
def addHeaders (name : String) (beginText endText : Text) : Registration Registry Unit :=
  addRules (TextRules.addHeaders name beginText endText)

end Registry

end LatexFigures
