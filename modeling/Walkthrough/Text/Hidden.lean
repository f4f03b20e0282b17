import Walkthrough.Text.Mark
import Walkthrough.Text.Silent

/-!
# Characters that are written as escapes

Inside a printed list or mapping a string stands in quotes, and a character that shows nothing of
its own there, be it silent or a part of the character before it, is written as its code point.
-/

namespace Walkthrough.Text

/-- The character shows nothing of its own. -/
def isHidden (c : Char) : Bool := isSilent c || (0x80 ≤ c.toNat && isExtending c)

end Walkthrough.Text
