import PageTrial.Fields

/-!
# Declared configurations

A configuration is declared: its fields with what is demanded of each and their defaults, whether
other names are refused, and whether it can be changed. What builds a configuration out of the
members of an object is a library that is no part of the program. So a library is whatever has the
operations of `Library`, and what the program counts on is written down in `Library.Documented`:

* a text is demanded by no more than its being one, and where none need be given, null stands for
  none; a truth value is taken as it is; a number is compared with its bound after it has been read,
  which the library does in its own way;
* the fields are gone through in the order of declaration, and after them the names that are not
  declared; what is wrong is gathered, and a configuration comes of it only if there is nothing;
* a field that is not given has its default, which is not looked at again;
* a field of a configuration that is frozen is not assigned.

`Library.lax` is a library of which all this can be proved.
-/

set_option autoImplicit false

namespace PageTrial.Fields

/-! ## Declarations -/

/-- What a field holds. -/
inductive Value where
  | text (s : String)
  | number (x : Float)
  | truth (b : Bool)
  | nothing
  deriving Repr

/-- What a number is compared with. -/
inductive Bound where
  | positive
  | nonnegative
  deriving Repr, DecidableEq

def Bound.Admits : Bound → Float → Prop
  | .positive, x => 0 < x
  | .nonnegative, x => 0 ≤ x

instance (bound : Bound) (x : Float) : Decidable (bound.Admits x) :=
  match bound with
  | .positive => inferInstanceAs (Decidable (0 < x))
  | .nonnegative => inferInstanceAs (Decidable (0 ≤ x))

def Bound.flaw : Bound → Flaw
  | .positive => .notPositive
  | .nonnegative => .negative

def Bound.check (bound : Bound) (x : Float) : Except Flaw Value :=
  if bound.Admits x then .ok (.number x) else .error bound.flaw

/-- What is demanded of a field. -/
inductive Demand where
  | text
  /-- A text, or nothing. -/
  | optionalText
  | truth
  | number (bound : Bound)
  deriving Repr, DecidableEq

structure Field where
  name : String
  demand : Demand
  default : Value
  deriving Repr

/-- A declared configuration. No two of its fields have one name. -/
structure Declaration where
  fields : List Field
  /-- Whether names that are not declared are refused. -/
  forbidsOthers : Bool
  /-- Whether fields are kept from being assigned. -/
  frozen : Bool
  distinct : (fields.map (·.name)).Nodup

namespace Declaration

def names (declaration : Declaration) : List String := declaration.fields.map (·.name)

/-- What is wrong with the value that an object gives for a field, if it gives one. -/
def complaint? (check : Demand → Json → Except Flaw Value) (members : Json.Members)
    (field : Field) : Option FieldError :=
  match Json.lookup field.name members with
  | none => none
  | some value =>
    match check field.demand value with
    | .ok _ => none
    | .error flaw => some ⟨field.name, flaw⟩

/-- All that is wrong with the members of an object. -/
def complaints (declaration : Declaration) (check : Demand → Json → Except Flaw Value)
    (members : Json.Members) : List FieldError :=
  declaration.fields.filterMap (complaint? check members) ++
    if declaration.forbidsOthers then undeclared declaration.names members else []

end Declaration

/-! ## The library -/

structure Library where
  /-- The configurations that are built from a declaration. -/
  Instance : Declaration → Type
  /-- A value as a number. -/
  number : Json → Except Flaw Float
  /-- A value as what a field with such a demand holds. -/
  check : Demand → Json → Except Flaw Value
  construct : (declaration : Declaration) → Json.Members →
    Except (List FieldError) (Instance declaration)
  /-- What a configuration holds under a name. -/
  get : {declaration : Declaration} → Instance declaration → String → Option Value
  assign : {declaration : Declaration} → Instance declaration → String → Json →
    Instance declaration × Except FieldError Unit

namespace Library

/-- What is known of a library. -/
structure Documented (library : Library) : Prop where
  check_text : ∀ {value held}, library.check .text value = .ok held →
    ∃ s, (value = .str s ∨ value = .broken s) ∧ held = .text s
  check_optionalText : ∀ {value held}, library.check .optionalText value = .ok held →
    value = .null ∧ held = .nothing ∨
      ∃ s, (value = .str s ∨ value = .broken s) ∧ held = .text s
  check_truth : ∀ {b held}, library.check .truth (.bool b) = .ok held → held = .truth b
  check_number : ∀ {bound value held}, library.check (.number bound) value = .ok held ↔
    ∃ x, library.number value = .ok x ∧ bound.Admits x ∧ held = .number x
  construct_error : ∀ {declaration members errors},
    library.construct declaration members = .error errors ↔
      errors = declaration.complaints library.check members ∧ errors ≠ []
  get_default : ∀ {declaration members config field},
    library.construct declaration members = .ok config → field ∈ declaration.fields →
    Json.lookup field.name members = none → library.get config field.name = some field.default
  get_given : ∀ {declaration members config field value held},
    library.construct declaration members = .ok config → field ∈ declaration.fields →
    Json.lookup field.name members = some value → library.check field.demand value = .ok held →
    library.get config field.name = some held
  assign_frozen : ∀ {declaration} (config : library.Instance declaration) {name} (value),
    declaration.frozen = true → name ∈ declaration.names →
    ∃ kept, library.assign config name value = (kept, .error ⟨name, .frozen⟩) ∧
      ∀ other, library.get kept other = library.get config other

/-! ## What configurations hold -/

section

variable (library : Library) {declaration : Declaration} (config : library.Instance declaration)
variable (name : String)

def textAt : String :=
  match library.get config name with
  | some (.text s) => s
  | _ => ""

def optionalTextAt : Option String :=
  match library.get config name with
  | some (.text s) => some s
  | _ => none

def truthAt : Bool :=
  match library.get config name with
  | some (.truth b) => b
  | _ => false

def numberAt : Float :=
  match library.get config name with
  | some (.number x) => x
  | _ => 0

end

/-! ## A library that takes numbers in many forms -/

/-- Checks a value. Numbers may also come as texts, and as truth values. -/
def laxCheck : Demand → Json → Except Flaw Value
  | .optionalText, .null => .ok .nothing
  | .text, value | .optionalText, value => (text value).map .text
  | .truth, value => (truth value).map .truth
  | .number bound, value => (seconds value).bind bound.check

/-- What a field holds: the default if nothing is given. -/
def laxValue (members : Json.Members) (field : Field) : Value :=
  match Json.lookup field.name members with
  | none => field.default
  | some value => (laxCheck field.demand value).toOption.getD field.default

def laxConstruct (declaration : Declaration) (members : Json.Members) :
    Except (List FieldError) (List (String × Value)) :=
  let complaints := declaration.complaints laxCheck members
  if complaints.isEmpty then
    .ok (declaration.fields.map fun field => (field.name, laxValue members field))
  else .error complaints

/-- A library whose configurations are lists of what they hold, and are never assigned to. -/
def lax : Library where
  Instance _ := List (String × Value)
  number := seconds
  check := laxCheck
  construct := laxConstruct
  get config name := config.lookup name
  assign config name _ := (config, .error ⟨name, .frozen⟩)

end Library

end PageTrial.Fields
