/-!
# JSON values

The values in which configurations arrive. Whole numbers and decimal numbers are told apart, as
they are in the text, and an object keeps its members as they were written, repeated names
included; `lookup` says which of them counts.
-/

set_option autoImplicit false

namespace PageTrial

/-- A JSON value. `broken` is a string that holds one half of a surrogate pair by itself and
therefore is no text; it is shown with a replacement character for each such half. -/
inductive Json where
  | null
  | bool (value : Bool)
  | int (value : Int)
  | float (value : Float)
  | str (text : String)
  | broken (shown : String)
  | arr (items : List Json)
  | obj (members : List (String × Json))
  deriving Repr, Inhabited

namespace Json

/-- What the kind of a value is called. -/
def typeName : Json → String
  | .null => "NoneType"
  | .bool _ => "bool"
  | .int _ => "int"
  | .float _ => "float"
  | .str _ | .broken _ => "str"
  | .arr _ => "list"
  | .obj _ => "dict"

abbrev Members := List (String × Json)

/-- The value of a name in an object: of several members with this name the last one counts. -/
def lookup (name : String) : Members → Option Json
  | [] => none
  | (key, value) :: rest =>
    match lookup name rest with
    | some later => some later
    | none => if key = name then some value else none

/-- The names in an object, each once, in the order in which they first appear. -/
def names (members : Members) : List String := (members.map Prod.fst).eraseDups

/-- A later member takes the place of all earlier ones with its name. -/
theorem lookup_append (name : String) (front back : Members) :
    lookup name (front ++ back) = (lookup name back <|> lookup name front) := by
  induction front with
  | nil => cases h : lookup name back <;> simp [lookup, h]
  | cons member rest ih =>
    obtain ⟨key, value⟩ := member
    simp only [List.cons_append, lookup, ih]
    cases lookup name back <;> simp

theorem lookup_concat_self (name : String) (front : Members) (value : Json) :
    lookup name (front ++ [(name, value)]) = some value := by
  simp [lookup_append, lookup]

end Json

end PageTrial
