import CiPipeline.Text.LowerCase
import CiPipeline.Text.WordCharacter

/-!
# Slug — identifiers of stages and jobs

The slug of a name is its lowercase with every run of characters that are no letters, marks or
digits replaced by one hyphen, and no hyphen at either end.

* `Slug.collapse`: runs of separators become one hyphen each;
* `Slug.trim`: hyphens at both ends are dropped;
* `Slug.ofName`: the identifier of a name.
-/

namespace CiPipeline
namespace Slug

open Text

def collapse : List Char → List Char
  | [] => []
  | c :: cs =>
    if isWordChar c then c :: collapse cs
    else
      match collapse cs with
      | '-' :: rest => '-' :: rest
      | rest => '-' :: rest

def trim (s : List Char) : List Char :=
  ((s.dropWhile (· == '-')).reverse.dropWhile (· == '-')).reverse

/-- The slug of a text given as its characters. -/
def ofChars (name : List Char) : List Char := trim (collapse (lowerCase name))

def ofName (name : String) : String := String.ofList (ofChars name.toList)

end Slug
end CiPipeline
