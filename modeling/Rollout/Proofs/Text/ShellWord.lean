import Rollout.Text.ShellWord

namespace Rollout.Text.ShellWord

/-! Quoted texts as a shell reads them.

A text between quotes is one word, and each of its characters is literal: one that is written
outside of the quotes stands behind a backslash.
-/

def bare (chars : List Char) : Word := chars.map fun char => { char, isLiteral := false }

def literal (chars : List Char) : Word := chars.map fun char => { char, isLiteral := true }

variable {chars rest : List Char} {reversed : Word} {char : Char}

theorem wordsFrom_between (solid : isSeparator char = false) :
    wordsFrom .between (char :: rest) = (unquoted? [] char).bind fun reading => wordsFrom reading rest := by
  rw [wordsFrom, if_neg (by simp [solid])]

theorem wordsFrom_inWord (solid : isSeparator char = false) :
    wordsFrom (.inWord reversed) (char :: rest) =
      (unquoted? reversed char).bind fun reading => wordsFrom reading rest := by
  rw [wordsFrom, if_neg (by simp [solid])]

theorem wordsFrom_close :
    wordsFrom (.inQuotes reversed) ('\'' :: rest) = wordsFrom (.inWord reversed) rest :=
  if_pos rfl

theorem wordsFrom_inQuotes (other : char ≠ '\'') :
    wordsFrom (.inQuotes reversed) (char :: rest) =
      wordsFrom (.inQuotes ({ char, isLiteral := true } :: reversed)) rest :=
  if_neg other

/-- A character outside of the quotes around it, behind a backslash. -/
theorem wordsFrom_escaped (single : char ≠ '\n') :
    wordsFrom (.inQuotes reversed) ('\'' :: '\\' :: char :: '\'' :: rest) =
      wordsFrom (.inQuotes ({ char, isLiteral := true } :: reversed)) rest := by
  rw [wordsFrom_close, wordsFrom_inWord (by decide)]
  show wordsFrom (.afterBackslash reversed) (char :: '\'' :: rest) = _
  rw [wordsFrom, if_neg single, wordsFrom_inWord (by decide)]
  rfl

/-- All of a quoted text is literal. -/
theorem wordsFrom_quotedChars (chars : List Char) (reversed : Word) :
    wordsFrom (.inQuotes reversed) (quotedChars chars ++ rest) =
      wordsFrom (.inWord ((literal chars).reverse ++ reversed)) rest := by
  induction chars generalizing reversed with
  | nil => exact wordsFrom_close
  | cons char chars ih =>
      have longer : (literal (char :: chars)).reverse ++ reversed =
          (literal chars).reverse ++ { char, isLiteral := true } :: reversed := by
        simp [literal]
      rw [longer, ← ih]
      by_cases mark : char = '\'' ∨ char = '!'
      · have single : char ≠ '\n' := by
          rintro rfl
          exact absurd mark (by decide)
        rw [quotedChars, if_pos mark]
        exact wordsFrom_escaped single
      · rw [quotedChars, if_neg mark]
        exact wordsFrom_inQuotes fun same => mark (.inl same)

/-- A text that is not plain is quoted as one literal word. -/
theorem wordsFrom_quote (special : chars.all isPlain = false) :
    wordsFrom .between (quote chars) = some [literal chars] := by
  have quoted : quote chars = '\'' :: quotedChars chars := by
    rw [quote, special, Bool.and_false]
    rfl
  have closed : wordsFrom (.inQuotes []) (quotedChars chars ++ []) =
      wordsFrom (.inWord ((literal chars).reverse ++ [])) [] :=
    wordsFrom_quotedChars chars []
  rw [List.append_nil, List.append_nil] at closed
  rw [quoted, wordsFrom_between (by decide)]
  show wordsFrom (.inQuotes []) (quotedChars chars) = _
  rw [closed, wordsFrom, List.reverse_reverse]

end Rollout.Text.ShellWord
