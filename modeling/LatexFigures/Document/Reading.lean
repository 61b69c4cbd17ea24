import LatexFigures.Document.Canvas
import LatexFigures.Document.Registry
import LatexFigures.Drawing.Figure
import LatexFigures.Text.Lines

/-! Reading a document into segments, one for each stretch between delimiters that has content.
Figures are interpreted as their segments close.
-/

namespace LatexFigures

/-- A contiguous block of a document in one environment. -/
structure Segment where
  kind : EnvironmentKind
  /-- The content fragments as they stand in the document. -/
  lines : List Text
  /-- The content after substitution, and a break for each blank line. -/
  html : List Text
  /-- The settings in force when the segment closed. -/
  settings : Settings
  figure : Option Figure

/-- A figure whose canvas cannot be read, with the line that opens it. -/
structure MalformedFigure where
  line : Nat
  /-- Where the line begins, in bytes. -/
  offset : Nat
  /-- How long the line is, in bytes. -/
  length : Nat
deriving Repr, DecidableEq

namespace MalformedFigure

/-- The wording of the error. -/
def message (e : MalformedFigure) : String := s!"malformed figure header on line {e.line}"

/-- How to avoid the error. -/
def help : String :=
  "a figure needs its canvas corners: \\begin\x7bpspicture\x7d(x0,y0)(x1,y1)"

end MalformedFigure

namespace Document

/-- What html shows for a blank line. -/
def blankLine : Text := "<br>".toList

/-- A document as its readers see it: blank lines, and the tokens of the others. -/
inductive Item
  | blank
  | token (line : Text.Line) (token : Token)

/-- The items of some lines, given the environment in force before them. -/
def itemsFrom (table : DelimiterTable) : EnvironmentKind → List Text.Line → List Item
  | _, [] => []
  | current, line :: lines =>
      if line.text.isAllBlank then .blank :: itemsFrom table current lines
      else
        let (tokens, current) := table.scan current line.text
        tokens.map (.token line) ++ itemsFrom table current lines

/-- The items of a document. -/
def items (table : DelimiterTable) (s : Text) : List Item := itemsFrom table .math (Text.lines s)

/-- A segment that is being collected, with the context of a figure as it opened. -/
structure Pending where
  kind : EnvironmentKind
  lines : List Text := []
  html : List Text := []
  context : Option Context := none

/-- How far reading has come. -/
structure Progress where
  settings : Settings := {}
  segments : List Segment := []
  pending : Pending := { kind := .math }

namespace Progress

/-- Adds a fragment to the segment that is being collected. -/
def keep (p : Progress) (fragment html : Text) : Progress :=
  let pending := { p.pending with
    lines := p.pending.lines ++ [fragment]
    html := p.pending.html ++ [html] }
  { p with pending }

/-- Adds a blank line, which html alone shows. -/
def addBlank (p : Progress) : Progress :=
  { p with pending := { p.pending with html := p.pending.html ++ [blankLine] } }

/-- Takes a content fragment over. Literal ones are kept as they are. Of the others those that
rules ignore are left out, and so are declarations, except in a figure, which makes them again
as it is interpreted.
-/
def addContent (rules : TextRules) (p : Progress) (fragment : Text) (literal : Bool)
    : Progress :=
  if fragment.isAllBlank then p
  else if literal then p.keep fragment fragment
  else if rules.isIgnored fragment then p
  else
    match Settings.bodyIn? fragment with
    | none => p.keep fragment (rules.apply fragment)
    | some body =>
        let p := { p with settings := p.settings.declare body }
        if p.pending.kind.isFigure then p.keep fragment (rules.apply fragment) else p

/-- Closes the segment that is being collected, which leaves no trace without content, and opens
another one.
-/
def close (p : Progress) (next : Pending) : Progress :=
  if p.pending.lines.isEmpty then { p with pending := next }
  else
    let segment : Segment :=
      { kind := p.pending.kind
        lines := p.pending.lines
        html := p.pending.html
        settings := p.settings
        figure := p.pending.context.map (Figure.ofLines p.pending.lines) }
    { p with segments := p.segments ++ [segment], pending := next }

/-- Opens an environment; none if it is a figure whose canvas cannot be read. -/
def enter? (p : Progress) (kind : EnvironmentKind) (header : Text) : Option Progress :=
  if kind.isFigure then
    (Canvas.read? header).map fun canvas =>
      let context := Context.initial canvas.lowerLeft canvas.upperRight p.settings
      p.close { kind, context := some context }
  else some (p.close { kind })

end Progress

/-- The outcome of reading, with the settings in force where reading ended. -/
structure Reading where
  outcome : Except MalformedFigure (List Segment)
  settings : Settings

/-- Reads item after item. -/
def collect (rules : TextRules) : Progress → List Item → Reading
  | p, [] => ⟨.ok (p.close { kind := .math }).segments, p.settings⟩
  | p, .blank :: items => collect rules p.addBlank items
  | p, .token line token :: items =>
      match token with
      | .content text literal => collect rules (p.addContent rules text literal) items
      | .closing .. => collect rules (p.close { kind := .math }) items
      | .opening kind header =>
          match p.enter? kind header with
          | some p => collect rules p items
          | none => ⟨.error ⟨line.number, line.offset, line.text.byteSize⟩, p.settings⟩

/-- Reads a document; every document starts from the default settings. -/
def read (registry : Registry) (s : Text) : Reading :=
  collect registry.rules {} (items registry.delimiters s)

/-- Splits a document into segments. -/
def parse (registry : Registry) (s : Text) : Except MalformedFigure (List Segment) :=
  (read registry s).outcome

/-- What a token becomes in an expanded line: running text is substituted. -/
def expandToken (rules : TextRules) : Token → Text
  | .content text false => rules.apply text
  | token => token.text

/-- Expands line after line, given the environment in force before them. -/
def expandFrom (registry : Registry) : EnvironmentKind → List Text.Line → List Text
  | _, [] => []
  | current, line :: lines =>
      if line.text.isAllBlank then blankLine :: expandFrom registry current lines
      else
        let (tokens, current) := registry.delimiters.scan current line.text
        tokens.flatMap (expandToken registry.rules) :: expandFrom registry current lines

/-- Substitutes a document line by line; delimiters and literal content stay. -/
def expand (registry : Registry) (s : Text) : List Text :=
  expandFrom registry .math (Text.lines s)

end Document

end LatexFigures
