import Rollout.Text.Category

namespace Rollout.Text

/-! Texts between double quotes, for people who look for what is wrong with them.
Characters that would not show are written by their code. -/

/-- Characters without a shape of their own: controls, spaces other than the
usual one, marks on other characters, and what has no meaning yet. -/
private def hiddenCategories : List String :=
  ["Cc", "Cf", "Cs", "Co", "Cn", "Zl", "Zp", "Zs", "Mn", "Me"]

private def isHidden (char : Char) : Bool :=
  char ≠ ' ' && hiddenCategories.any fun name =>
    (categoryRuns name).any fun (first, last) => first ≤ char.toNat && char.toNat ≤ last

private def escaped (char : Char) : List Char :=
  match char with
  | '\x00' => ['\\', '0']
  | '\t' => ['\\', 't']
  | '\r' => ['\\', 'r']
  | '\n' => ['\\', 'n']
  | '\\' | '"' => ['\\', char]
  | _ =>
      if isHidden char then
        ['\\', 'u', '\x7b'] ++ Nat.toDigits 16 char.toNat ++ ['\x7d']
      else [char]

def quoted (text : String) : String :=
  String.ofList (['"'] ++ text.toList.flatMap escaped ++ ['"'])

end Rollout.Text
