import LatexFigures.Settings.Basic
import LatexFigures.Style.Options

/-! The style of one drawing: defaults, then the settings in force, then the drawing's own
options.
-/

namespace LatexFigures

/-- Stroke and filling of one drawing. -/
structure Style where
  linecolor : Text
  linestyle : LineStyle
  linewidth : Float
  fillcolor : Text
  fillstyle : FillStyle
deriving DecidableEq

namespace Style

/-- The line width where none is given, or where an option gives an unreadable one. -/
def defaultWidth : Float := 2

/-- The defaults of a command; commands differ in their filling only. -/
def plain (fillstyle : FillStyle) (fillcolor : String) : Style :=
  { linecolor := "black".toList
    linestyle := .solid
    linewidth := defaultWidth
    fillcolor := fillcolor.toList
    fillstyle }

/-- Replaces what the settings declare. -/
def withSettings (style : Style) (settings : Settings) : Style :=
  { linecolor := settings.linecolor.getD style.linecolor
    linestyle := settings.linestyle.getD style.linestyle
    linewidth := settings.linewidth.getD style.linewidth
    fillcolor := settings.fillcolor.getD style.fillcolor
    fillstyle := settings.fillstyle.getD style.fillstyle }

/-- Replaces what the options name. Unknown styles are passed over, but an unreadable width
brings back the default one.
-/
def withOptions (style : Style) (options : Options) : Style :=
  { linecolor := (options.get? "linecolor").getD style.linecolor
    linestyle := ((options.get? "linestyle").bind LineStyle.named?).getD style.linestyle
    linewidth :=
      match options.get? "linewidth" with
      | some width => (Number.Literal.finite? width).getD defaultWidth
      | none => style.linewidth
    fillcolor := (options.get? "fillcolor").getD style.fillcolor
    fillstyle := ((options.get? "fillstyle").bind FillStyle.named?).getD style.fillstyle }

/-- Defaults, settings and options in layers, each over the one before. -/
def resolve (style : Style) (settings : Settings) (options : Options) : Style :=
  (style.withSettings settings).withOptions options

end Style

end LatexFigures
