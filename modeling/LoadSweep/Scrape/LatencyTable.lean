import LoadSweep.Scrape.Figure

/-!
# The latency table

A full report ends with a heading, a line of column names and a line of values.  The table is read
as a whole or not at all: the lines must have equally many words and every value must be a number.
Columns are looked up by name, whatever their letter case.
-/

namespace LoadSweep.Scrape

open LoadSweep.Text LoadSweep.Number

set_option autoImplicit false

/-- Whether a character is a given lower-case letter when letter case is ignored.  The long s is a
form of the letter s. -/
def isLetter (letter c : Char) : Bool :=
  c.toLower == letter || (letter == 's' && c.toNat == 0x17F)

/-- What follows given lower-case words, whatever the letter case of the text. -/
def stripFolded? : List Char → List Char → Option (List Char)
  | [], text => some text
  | _ :: _, [] => none
  | letter :: words, c :: text => if isLetter letter c then stripFolded? words text else none

/-- What follows the heading of the table, at the start of a text. -/
def headingAt? (text : List Char) : Option (List Char) :=
  (stripFolded? "latency summary".toList text).bind fun rest =>
    stripFolded? "(msec)".toList (rest.dropWhile isBlank)

/-- The lines that a table can consist of: without the blanks around them, and without the lines
that are then empty or only a colon. -/
def tableLines (text : List Char) : List (List Char) :=
  ((lines text).map trim).filter fun line => !line.isEmpty && line != [':']

/-- The columns of a table with a line of names and a line of values. -/
def columnsOf? (header values : List Char) : Option (List (List Char × Float)) :=
  ((words values).mapM readFloat?).bind fun numbers =>
    let names := (words header).map lowerAscii
    if names.isEmpty || names.length != numbers.length then none
    else some (names.zip numbers)

/-- The columns below the first heading of a text. -/
def latencyColumns? (text : List Char) : Option (List (List Char × Float)) :=
  (firstMatch? headingAt? text).bind fun rest =>
    match tableLines rest with
    | header :: values :: _ => columnsOf? header values
    | _ => none

/-- The value under the first column with a name. -/
def column? (columns : Option (List (List Char × Float))) (name : String) : Option Float :=
  (columns.getD []).lookup name.toList

end LoadSweep.Scrape
