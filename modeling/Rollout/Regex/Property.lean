import Rollout.Text.Category
import Rollout.Regex.CharSet

namespace Rollout.Regex

/-! Sets of characters that patterns refer to by name. -/

private def category (name : String) : CharSet :=
  CharSet.ofRuns (Text.categoryRuns name)

private def categories (names : List String) : CharSet :=
  CharSet.ofRuns (names.flatMap Text.categoryRuns)

/-- Letters, marks, decimal digits and connecting punctuation, and the joiners. -/
def wordChars : CharSet :=
  CharSet.ofRuns
    (["Lu", "Ll", "Lt", "Lm", "Lo", "Nl", "Mn", "Mc", "Me", "Nd", "Pc"].flatMap Text.categoryRuns ++
      [(0x200C, 0x200D), (0x24B6, 0x24E9), (0x1F130, 0x1F149), (0x1F150, 0x1F169),
        (0x1F170, 0x1F189)])

def asciiWordChars : CharSet :=
  CharSet.ofRuns [(0x30, 0x39), (0x41, 0x5A), (0x5F, 0x5F), (0x61, 0x7A)]

def digits (unicode : Bool) : CharSet :=
  if unicode then category "Nd" else CharSet.ofRange 0x30 0x39

def spaces (unicode : Bool) : CharSet :=
  if unicode then
    CharSet.ofRuns
      [(0x09, 0x0D), (0x20, 0x20), (0x85, 0x85), (0xA0, 0xA0), (0x1680, 0x1680), (0x2000, 0x200A),
        (0x2028, 0x2029), (0x202F, 0x202F), (0x205F, 0x205F), (0x3000, 0x3000)]
  else CharSet.ofRuns [(0x09, 0x0D), (0x20, 0x20)]

def words (unicode : Bool) : CharSet :=
  if unicode then wordChars else asciiWordChars

def asciiClass? (name : String) : Option CharSet :=
  let runs? : Option (List (Nat × Nat)) := match name with
    | "alnum" => some [(0x30, 0x39), (0x41, 0x5A), (0x61, 0x7A)]
    | "alpha" => some [(0x41, 0x5A), (0x61, 0x7A)]
    | "ascii" => some [(0x00, 0x7F)]
    | "blank" => some [(0x09, 0x09), (0x20, 0x20)]
    | "cntrl" => some [(0x00, 0x1F), (0x7F, 0x7F)]
    | "digit" => some [(0x30, 0x39)]
    | "graph" => some [(0x21, 0x7E)]
    | "lower" => some [(0x61, 0x7A)]
    | "print" => some [(0x20, 0x7E)]
    | "punct" => some [(0x21, 0x2F), (0x3A, 0x40), (0x5B, 0x60), (0x7B, 0x7E)]
    | "space" => some [(0x09, 0x0D), (0x20, 0x20)]
    | "upper" => some [(0x41, 0x5A)]
    | "word" => some [(0x30, 0x39), (0x41, 0x5A), (0x5F, 0x5F), (0x61, 0x7A)]
    | "xdigit" => some [(0x30, 0x39), (0x41, 0x46), (0x61, 0x66)]
    | _ => none
  runs?.map CharSet.ofRuns

/-- The categories that a category name covers.  No character is a surrogate. -/
private def categoryGroup? (name : String) : Option (List String) :=
  match name with
  | "l" | "letter" => some ["Lu", "Ll", "Lt", "Lm", "Lo"]
  | "lc" | "casedletter" => some ["Lu", "Ll", "Lt"]
  | "lu" | "uppercaseletter" => some ["Lu"]
  | "ll" | "lowercaseletter" => some ["Ll"]
  | "lt" | "titlecaseletter" => some ["Lt"]
  | "lm" | "modifierletter" => some ["Lm"]
  | "lo" | "otherletter" => some ["Lo"]
  | "m" | "mark" | "combiningmark" => some ["Mn", "Mc", "Me"]
  | "mn" | "nonspacingmark" => some ["Mn"]
  | "mc" | "spacingmark" => some ["Mc"]
  | "me" | "enclosingmark" => some ["Me"]
  | "n" | "number" => some ["Nd", "Nl", "No"]
  | "nd" | "decimalnumber" | "digit" => some ["Nd"]
  | "nl" | "letternumber" => some ["Nl"]
  | "no" | "othernumber" => some ["No"]
  | "p" | "punctuation" | "punct" => some ["Pc", "Pd", "Ps", "Pe", "Pi", "Pf", "Po"]
  | "pc" | "connectorpunctuation" => some ["Pc"]
  | "pd" | "dashpunctuation" => some ["Pd"]
  | "ps" | "openpunctuation" => some ["Ps"]
  | "pe" | "closepunctuation" => some ["Pe"]
  | "pi" | "initialpunctuation" => some ["Pi"]
  | "pf" | "finalpunctuation" => some ["Pf"]
  | "po" | "otherpunctuation" => some ["Po"]
  | "s" | "symbol" => some ["Sm", "Sc", "Sk", "So"]
  | "sm" | "mathsymbol" => some ["Sm"]
  | "sc" | "currencysymbol" => some ["Sc"]
  | "sk" | "modifiersymbol" => some ["Sk"]
  | "so" | "othersymbol" => some ["So"]
  | "z" | "separator" => some ["Zs", "Zl", "Zp"]
  | "zs" | "spaceseparator" => some ["Zs"]
  | "zl" | "lineseparator" => some ["Zl"]
  | "zp" | "paragraphseparator" => some ["Zp"]
  | "c" | "other" => some ["Cc", "Cf", "Cs", "Co", "Cn"]
  | "cc" | "control" | "cntrl" => some ["Cc"]
  | "cf" | "format" => some ["Cf"]
  | "co" | "privateuse" => some ["Co"]
  | "cn" | "unassigned" => some ["Cn"]
  | _ => none

private def scriptRuns? (name : String) : Option (List (Nat × Nat)) :=
  match name with
  | "latin" | "latn" =>
      some [(0x41, 0x5A), (0x61, 0x7A), (0xAA, 0xAA), (0xBA, 0xBA), (0xC0, 0xD6), (0xD8, 0xF6),
        (0xF8, 0x2B8), (0x2E0, 0x2E4), (0x1D00, 0x1D25), (0x1D2C, 0x1D5C), (0x1D62, 0x1D65),
        (0x1D6B, 0x1D77), (0x1D79, 0x1DBE), (0x1E00, 0x1EFF), (0x2071, 0x2071), (0x207F, 0x207F),
        (0x2090, 0x209C), (0x212A, 0x212B), (0x2132, 0x2132), (0x214E, 0x214E), (0x2160, 0x2188),
        (0x2C60, 0x2C7F), (0xA722, 0xA787), (0xA78B, 0xA7CA), (0xA7F2, 0xA7FF), (0xAB30, 0xAB5A),
        (0xAB5C, 0xAB64), (0xFB00, 0xFB06), (0xFF21, 0xFF3A), (0xFF41, 0xFF5A)]
  | "greek" | "grek" =>
      some [(0x370, 0x373), (0x375, 0x377), (0x37A, 0x37D), (0x37F, 0x37F), (0x384, 0x384),
        (0x386, 0x386), (0x388, 0x38A), (0x38C, 0x38C), (0x38E, 0x3A1), (0x3A3, 0x3E1),
        (0x3F0, 0x3FF), (0x1F00, 0x1F15), (0x1F18, 0x1F1D), (0x1F20, 0x1F45), (0x1F48, 0x1F4D),
        (0x1F50, 0x1F57), (0x1F59, 0x1F59), (0x1F5B, 0x1F5B), (0x1F5D, 0x1F5D), (0x1F5F, 0x1F7D),
        (0x1F80, 0x1FB4), (0x1FB6, 0x1FC4), (0x1FC6, 0x1FD3), (0x1FD6, 0x1FDB), (0x1FDD, 0x1FEF),
        (0x1FF2, 0x1FF4), (0x1FF6, 0x1FFE), (0x2126, 0x2126)]
  | "cyrillic" | "cyrl" =>
      some [(0x400, 0x484), (0x487, 0x52F), (0x1C80, 0x1C88), (0x1D2B, 0x1D2B), (0x1D78, 0x1D78),
        (0x2DE0, 0x2DFF), (0xA640, 0xA69F), (0xFE2E, 0xFE2F)]
  | "armenian" | "armn" =>
      some [(0x531, 0x556), (0x559, 0x58A), (0x58D, 0x58F), (0xFB13, 0xFB17)]
  | "hebrew" | "hebr" =>
      some [(0x591, 0x5C7), (0x5D0, 0x5EA), (0x5EF, 0x5F4), (0xFB1D, 0xFB36), (0xFB38, 0xFB3C),
        (0xFB3E, 0xFB3E), (0xFB40, 0xFB41), (0xFB43, 0xFB44), (0xFB46, 0xFB4F)]
  | "arabic" | "arab" =>
      some [(0x600, 0x604), (0x606, 0x60B), (0x60D, 0x61A), (0x61C, 0x61E), (0x620, 0x63F),
        (0x641, 0x64A), (0x656, 0x66F), (0x671, 0x6DC), (0x6DE, 0x6FF), (0x750, 0x77F),
        (0xFB50, 0xFBC2), (0xFE70, 0xFE74), (0xFE76, 0xFEFC)]
  | "devanagari" | "deva" => some [(0x900, 0x950), (0x955, 0x963), (0x966, 0x97F), (0xA8E0, 0xA8FF)]
  | "thai" => some [(0xE01, 0xE3A), (0xE40, 0xE5B)]
  | "hangul" | "hang" =>
      some [(0x1100, 0x11FF), (0x302E, 0x302F), (0x3131, 0x318E), (0x3200, 0x321E),
        (0x3260, 0x327E), (0xA960, 0xA97C), (0xAC00, 0xD7A3), (0xD7B0, 0xD7C6), (0xD7CB, 0xD7FB),
        (0xFFA0, 0xFFBE), (0xFFC2, 0xFFC7), (0xFFCA, 0xFFCF), (0xFFD2, 0xFFD7), (0xFFDA, 0xFFDC)]
  | "hiragana" | "hira" =>
      some [(0x3041, 0x3096), (0x309D, 0x309F), (0x1B001, 0x1B11F), (0x1B150, 0x1B152),
        (0x1F200, 0x1F200)]
  | "katakana" | "kana" =>
      some [(0x30A1, 0x30FA), (0x30FD, 0x30FF), (0x31F0, 0x31FF), (0x32D0, 0x32FE),
        (0x3300, 0x3357), (0xFF66, 0xFF6F), (0xFF71, 0xFF9D)]
  | "han" | "hani" =>
      some [(0x2E80, 0x2E99), (0x2E9B, 0x2EF3), (0x2F00, 0x2FD5), (0x3005, 0x3005),
        (0x3007, 0x3007), (0x3021, 0x3029), (0x3038, 0x303B), (0x3400, 0x4DBF), (0x4E00, 0x9FFF),
        (0xF900, 0xFA6D), (0xFA70, 0xFAD9), (0x20000, 0x2A6DF), (0x2A700, 0x2EBE0),
        (0x2F800, 0x2FA1D), (0x30000, 0x3134A)]
  | _ => none

private def letters : List String := ["Lu", "Ll", "Lt", "Lm", "Lo", "Nl"]

private def circledLetters : List (Nat × Nat) :=
  [(0x24B6, 0x24E9), (0x1F130, 0x1F149), (0x1F150, 0x1F169), (0x1F170, 0x1F189)]

private def binaryProperty? (name : String) : Option CharSet :=
  match name with
  | "alphabetic" | "alpha" =>
      some (CharSet.ofRuns (letters.flatMap Text.categoryRuns ++ circledLetters))
  | "lowercase" | "lower" =>
      some (CharSet.ofRuns (Text.categoryRuns "Ll" ++
        [(0xAA, 0xAA), (0xBA, 0xBA), (0x2B0, 0x2B8), (0x2C0, 0x2C1), (0x2E0, 0x2E4),
          (0x345, 0x345), (0x37A, 0x37A), (0x1D2C, 0x1D6A), (0x1D78, 0x1D78), (0x1D9B, 0x1DBF),
          (0x2071, 0x2071), (0x207F, 0x207F), (0x2090, 0x209C), (0x2170, 0x217F), (0x24D0, 0x24E9),
          (0x2C7C, 0x2C7D), (0xA69C, 0xA69D), (0xA770, 0xA770), (0xA7F8, 0xA7F9),
          (0xAB5C, 0xAB5F)]))
  | "uppercase" | "upper" =>
      some (CharSet.ofRuns (Text.categoryRuns "Lu" ++
        [(0x2160, 0x216F), (0x24B6, 0x24CF), (0x1F130, 0x1F149), (0x1F150, 0x1F169),
          (0x1F170, 0x1F189)]))
  | "whitespace" | "wspace" | "space" => some (spaces true)
  | "asciihexdigit" | "ahex" => asciiClass? "xdigit"
  | _ => none

/-- Names are compared without case, spaces, dashes, underscores and a leading
`is`, which belongs to the name of comments, `isc`. -/
private def plainName (name : String) : String :=
  let chars := (name.toList.map Char.toLower).filter fun char =>
    !(char = ' ' || char = '_' || char = '-')
  String.ofList <| match chars with
    | ['i', 's', 'c'] => chars
    | 'i' :: 's' :: rest => rest
    | _ => chars

def property? (name : String) : Option CharSet :=
  let plain := plainName name
  match plain with
  | "any" => some CharSet.all
  | "assigned" => some (category "Cn").complement
  | "ascii" => some (CharSet.ofRange 0 0x7F)
  | _ =>
      binaryProperty? plain <|> (categoryGroup? plain).map categories <|>
        (scriptRuns? plain).map CharSet.ofRuns

def propertyValue? (property value : String) : Option CharSet :=
  match plainName property with
  | "gc" | "generalcategory" => (categoryGroup? (plainName value)).map categories
  | "sc" | "script" | "scx" | "scriptextensions" =>
      (scriptRuns? (plainName value)).map CharSet.ofRuns
  | _ => none

end Rollout.Regex
