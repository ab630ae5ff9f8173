namespace Tablewright.Preview

/-!
# Terminal styles

A style is switched on before a text and off after it. When the text itself
switches all styles off, the style is switched on again behind that place.
-/

/-- A style of the preview. -/
inductive Style where
  | dimmed
  | bold
  | boldCyan
  | magenta
  | green
  | boldYellow
  deriving Repr, DecidableEq

namespace Style

/-- The sequence that switches the style on. -/
def opening : Style → String
  | .dimmed => "\x1b[2m"
  | .bold => "\x1b[1m"
  | .boldCyan => "\x1b[1;36m"
  | .magenta => "\x1b[35m"
  | .green => "\x1b[32m"
  | .boldYellow => "\x1b[1;33m"

/-- The sequence that switches every style off. -/
def closing : String := "\x1b[0m"

/-- A text in a style. -/
def apply (style : Style) (text : String) : String :=
  style.opening ++
    (closing ++ style.opening).intercalate (text.splitOn closing) ++
    closing

end Style

/-- Whether styles are used. -/
inductive Palette where
  | plain
  | colored
  deriving Repr, DecidableEq

/-- A text in a style, if styles are used. -/
def Palette.paint (palette : Palette) (style : Style) (text : String) :
    String :=
  match palette with
  | .plain => text
  | .colored => style.apply text

end Tablewright.Preview
