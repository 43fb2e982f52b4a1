/-!
# Hanging text

A text of several lines inside a report: the lines behind the first one are
indented.
-/

namespace PortKnock.Text

/-- The text with each line but the first one indented by four blanks. -/
def hanging (text : String) : String :=
  "\n    ".intercalate (text.splitOn "\n")

end PortKnock.Text
