import CommitLanes.Text.Grapheme
import CommitLanes.Text.Width

/-! Texts cut to a number of columns.

How many columns a text takes, and where it may be cut, differs between terminals. A ruler
says both, and everything that has to fit a line is measured with one.
-/

set_option autoImplicit false

namespace CommitLanes

structure Ruler where
  width : Text → Nat
  /-- The parts of a text that are never cut apart, in order. -/
  clusters : Text → List Text

namespace Ruler

def terminal : Ruler :=
  ⟨Text.width, Grapheme.clusters⟩

def fitting (ruler : Ruler) (budget : Nat) : List Text → List Text
  | [] => []
  | cluster :: rest =>
      if ruler.width cluster ≤ budget then
        cluster :: fitting ruler (budget - ruler.width cluster) rest
      else []

/-- The text itself where it fits. Else whole clusters and behind them the ellipsis, if
that alone has room. -/
def truncate (ruler : Ruler) (text : Text) (columns : Nat) (ellipsis : Text) : Text :=
  if ruler.width text ≤ columns then text
  else
    -- An ellipsis without room leaves a budget of nothing, which weightless clusters still fit.
    let kept := (ruler.fitting (columns - ruler.width ellipsis) (ruler.clusters text)).flatten
    if ruler.width ellipsis ≤ columns then kept ++ ellipsis else kept

end Ruler

end CommitLanes
