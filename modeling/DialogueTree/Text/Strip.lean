/-!
# Taking a part out of a text

Removing all occurrences of a part, also those that come about where others have been taken out.

* `removeFound`: one pass over a text from the left.
* `strip`: passes until one finds nothing.
-/

namespace DialogueTree.Text

/-- A text without the occurrences of `a :: as` that a search from the left finds, each search
starting behind the last find. -/
def removeFound (a : Char) (as : List Char) : List Char → List Char
  | [] => []
  | c :: cs =>
    if c = a ∧ as.isPrefixOf cs then removeFound a as (cs.drop as.length)
    else c :: removeFound a as cs
termination_by cs => cs.length
decreasing_by all_goals simp only [List.length_drop, List.length_cons]; omega

/-- Takes out occurrences of `a :: as` until there is none left. -/
def stripChars (a : Char) (as cs : List Char) : List Char :=
  if (removeFound a as cs).length < cs.length then stripChars a as (removeFound a as cs) else cs
termination_by cs.length

/-- A text without any occurrence of `part` (`strip_all`). Nothing is taken out for the empty part.
-/
def strip (text part : String) : String :=
  match part.toList with
  | [] => text
  | a :: as => String.ofList (stripChars a as text.toList)

end DialogueTree.Text
