import PageTrial.Decimal.Layout
import PageTrial.Json
import PageTrial.Text.Quoted

/-!
# Showing JSON values

How messages show a value: texts are quoted, and the words are capitalised.
-/

set_option autoImplicit false

namespace PageTrial.Json

mutual

def shown : Json → String
  | .null => "None"
  | .bool true => "True"
  | .bool false => "False"
  | .int n => toString n
  | .float x => Decimal.text x
  | .str s | .broken s => Text.quoted s
  | .arr items => "[" ++ String.intercalate ", " (shownItems items) ++ "]"
  | .obj members => "\x7b" ++ String.intercalate ", " (shownMembers members) ++ "\x7d"

def shownItems : List Json → List String
  | [] => []
  | item :: rest => shown item :: shownItems rest

/-- The members of an object, each as a name and a value. -/
def shownMembers : List (String × Json) → List String
  | [] => []
  | (name, item) :: rest => (Text.quoted name ++ ": " ++ shown item) :: shownMembers rest

end

end PageTrial.Json
