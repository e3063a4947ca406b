/-!
Source text made of lines, each ended by a line feed.
-/

namespace Groundcover

/-- The text of some lines. -/
def unlines (lines : List String) : String := String.join (lines.map (· ++ "\n"))

end Groundcover
