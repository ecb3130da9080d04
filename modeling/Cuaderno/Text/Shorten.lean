import Cuaderno.Text.Blank
import Cuaderno.Text.Piece

/-!
# Shortened texts

A text that is too wide for its place is cut and marked. A negative width counts from the end of
the text, as a negative bound of a slice does.
-/

namespace Cuaderno.Text

/-- At most `width` characters of a text, with `mark` behind them when something is left out. -/
def shorten (cs : List Char) (width : Int) (mark : List Char) : List Char :=
  if (cs.length : Int) ≤ width then cs else trimEnd (slice cs 0 width) ++ mark

end Cuaderno.Text
