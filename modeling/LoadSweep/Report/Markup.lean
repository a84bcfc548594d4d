/-!
# Text in markup

Text that comes from settings is escaped where it enters a chart or a page: the five characters
that markup gives a meaning become entities, and nothing else changes.
-/

namespace LoadSweep.Markup

set_option autoImplicit false

/-- What stands for one character. -/
def escapeChar (c : Char) : List Char :=
  if c == '&' then "&amp;".toList
  else if c == '<' then "&lt;".toList
  else if c == '>' then "&gt;".toList
  else if c == '\x22' then "&quot;".toList
  else if c == '\x27' then "&#39;".toList
  else [c]

/-- A text in which every character with a meaning in markup is an entity. -/
def escape (text : String) : String :=
  String.ofList (text.toList.flatMap escapeChar)

end LoadSweep.Markup
