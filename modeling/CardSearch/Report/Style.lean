/-!
# Styles

Parts of a report are set off by colour or weight on a terminal. Without styles
the text stays as it is.
-/

namespace CardSearch.Report

inductive Style where
  | bold
  | dimmed
  | red
  | green
  | yellow
  | cyan
deriving DecidableEq, Repr

namespace Style

/-- The number that switches the style on. -/
def onCode : Style → List Char
  | bold => ['1']
  | dimmed => ['2']
  | red => ['3', '1']
  | green => ['3', '2']
  | yellow => ['3', '3']
  | cyan => ['3', '6']

/-- The number that switches the style off: all styles, or the colour alone. -/
def offCode : Style → List Char
  | bold | dimmed => ['0']
  | red | green | yellow | cyan => ['3', '9']

end Style

/-- A terminal control sequence. -/
def control (code : List Char) : List Char := '\x1b' :: '[' :: code ++ ['m']

/-- The text in a style, where styles are on. -/
def paint (styled : Bool) (style : Style) (text : List Char) : List Char :=
  if styled then control style.onCode ++ text ++ control style.offCode else text

@[simp] theorem paint_false (style : Style) (text : List Char) :
    paint false style text = text := rfl

end CardSearch.Report
