/-!
# Character — the character classes of YAML texts

* `Yaml.isAllowed`: characters that may occur in a text at all;
* `Yaml.isBreak`, `Yaml.isBlank`: line breaks, spaces and tabs;
* `Yaml.isWordChar`: letters, digits and the signs of names;
* `Yaml.blankAhead`, `Yaml.breakAhead`, `Yaml.markerAhead`: what the text ahead begins with.
-/

namespace CiPipeline
namespace Yaml

/-- All other characters are control characters. -/
def isAllowed (c : Char) : Bool :=
  let n := c.toNat
  n == 0x9 || n == 0xA || n == 0xD || (0x20 ≤ n && n ≤ 0x7E) || n == 0x85
    || (0xA0 ≤ n && n ≤ 0xFFFD) || 0x10000 ≤ n

def isBreak (c : Char) : Bool :=
  c == '\n' || c == '\r' || c == '\u0085' || c == '\u2028' || c == '\u2029'

def isBlank (c : Char) : Bool := c == ' ' || c == '\t'

def isBlankOrBreak (c : Char) : Bool := isBlank c || isBreak c

def isWordChar (c : Char) : Bool := c.isAlphanum || c == '_' || c == '-'

def isFlowIndicator (c : Char) : Bool :=
  c == ',' || c == '[' || c == ']' || c == '\x7b' || c == '\x7d'

def byteOrderMark : Char := '\uFEFF'

/-! ## The text ahead -/

/-- The text ahead begins with a blank or a line break, or there is none. -/
def blankAhead : List Char → Bool
  | [] => true
  | c :: _ => isBlankOrBreak c

/-- The text ahead begins with a line break, or there is none. -/
def breakAhead : List Char → Bool
  | [] => true
  | c :: _ => isBreak c

/-- Whether the text ahead is `---` or `...` as a word of its own. -/
def markerAhead : List Char → Bool
  | '-' :: '-' :: '-' :: rest => blankAhead rest
  | '.' :: '.' :: '.' :: rest => blankAhead rest
  | _ => false

end Yaml
end CiPipeline
