/-!
ASCII letters regardless of case.  Only the letters `A` to `Z` and `a` to `z`
have a case here; every other character stands for itself.
-/

namespace DirectoryInterchange.Ascii

def lower (text : String) : String :=
  String.ofList (text.toList.map Char.toLower)

@[simp] theorem toList_lower (text : String) :
    (lower text).toList = text.toList.map Char.toLower := by
  simp [lower]

/-- Whether two texts differ at most in the case of ASCII letters. -/
def sameLetters (left right : String) : Bool :=
  lower left == lower right

theorem sameLetters_iff (left right : String) :
    sameLetters left right = true ↔ lower left = lower right := by
  simp [sameLetters]

@[simp] theorem sameLetters_self (text : String) : sameLetters text text = true := by
  simp [sameLetters]

/-- Removes `start` from the front of `text` when the text begins with it,
the case of ASCII letters aside. -/
def dropStart? (start : String) (text : String) : Option String :=
  let characters := text.toList
  if characters.length < start.length then none
  else if sameLetters (String.ofList (characters.take start.length)) start then
    some (String.ofList (characters.drop start.length))
  else none

end DirectoryInterchange.Ascii
