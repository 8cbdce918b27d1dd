namespace Rollout.Text.ShellWord

/-! Words of a POSIX shell command line.

`quote` writes any text as one word between single quotes; a quote and an
exclamation mark inside are written outside of the quotes behind a backslash.
`words?` reads a command line back: single quotes are literal, a backslash
outside of them escapes one character, and unquoted blanks separate words.
-/

def quotedChars : List Char → List Char
  | [] => ['\'']
  | char :: chars =>
      if char = '\'' ∨ char = '!' then
        '\'' :: '\\' :: char :: '\'' :: quotedChars chars
      else char :: quotedChars chars

def isPlain (char : Char) : Bool :=
  char.isAlphanum || char == '-' || char == '_' || char == '=' || char == '/' ||
    char == ',' || char == '.' || char == '+'

/-- Writes a text as one shell word.  A non-empty text of plain characters is
its own word. -/
def quote (chars : List Char) : List Char :=
  if !chars.isEmpty && chars.all isPlain then chars
  else '\'' :: quotedChars chars

/-- A character of a word.  One that was quoted or escaped stands for itself
whatever it is. -/
structure Letter where
  char : Char
  isLiteral : Bool
deriving Repr, DecidableEq

abbrev Word := List Letter

/-- How far a command line has been read: between words, or inside of one whose
letters so far are kept in reverse order. -/
inductive Reading where
  | between
  | inWord (reversed : Word)
  | inQuotes (reversed : Word)
  | afterBackslash (reversed : Word)
deriving Repr, DecidableEq

def isSeparator (char : Char) : Bool :=
  char = ' ' || char = '\t'

/-- Characters that ask the shell for more than words if they are not quoted:
further commands, redirections, expansions, patterns, comments. -/
def isSpecial (char : Char) : Bool :=
  char ∈ "\n&;<>()|$`\"*?[#~".toList

/-- Where a character leads that stands outside of quotes and in a word. -/
def unquoted? (reversed : Word) (char : Char) : Option Reading :=
  if char = '\'' then some (.inQuotes reversed)
  else if char = '\\' then some (.afterBackslash reversed)
  else if isSpecial char then none
  else some (.inWord ({ char, isLiteral := false } :: reversed))

/-- The words of a command line that is one plain command, or nothing when it is
more than that, or a quote or a backslash is left open at its end. -/
def wordsFrom : Reading → List Char → Option (List Word)
  | .between, [] => some []
  | .inWord reversed, [] => some [reversed.reverse]
  | .inQuotes _, [] => none
  | .afterBackslash _, [] => none
  | .between, char :: chars =>
      if isSeparator char then wordsFrom .between chars
      else (unquoted? [] char).bind fun reading => wordsFrom reading chars
  | .inWord reversed, char :: chars =>
      if isSeparator char then (wordsFrom .between chars).map (reversed.reverse :: ·)
      else (unquoted? reversed char).bind fun reading => wordsFrom reading chars
  | .inQuotes reversed, char :: chars =>
      if char = '\'' then wordsFrom (.inWord reversed) chars
      else wordsFrom (.inQuotes ({ char, isLiteral := true } :: reversed)) chars
  | .afterBackslash reversed, char :: chars =>
      -- A line feed behind a backslash would join two lines.
      if char = '\n' then none
      else wordsFrom (.inWord ({ char, isLiteral := true } :: reversed)) chars

def words? (line : String) : Option (List Word) :=
  wordsFrom .between line.toList

end Rollout.Text.ShellWord
