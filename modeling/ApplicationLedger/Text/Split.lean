/-
This file splits texts at the last of their marks.
-/

namespace ApplicationLedger.Text

/-- What stands before and behind the last character of a kind. -/
def splitLast? (isMark : Char → Bool) : List Char → Option (List Char × List Char)
  | [] => none
  | c :: rest =>
    match splitLast? isMark rest with
    | some (before, behind) => some (c :: before, behind)
    | none => if isMark c then some ([], rest) else none

end ApplicationLedger.Text
