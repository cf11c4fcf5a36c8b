/-!
# Cutting texts at a character
-/

set_option autoImplicit false

namespace PageTrial.Text

/-- What comes before the first `c`, which is everything if there is none. -/
def before (c : Char) (cs : List Char) : List Char := cs.takeWhile (· ≠ c)

/-- What comes after the first `c`, which is nothing if there is none. -/
def after (c : Char) (cs : List Char) : List Char := (cs.dropWhile (· ≠ c)).drop 1

/-- What comes after the last `c`, which is everything if there is none. -/
def afterLast (c : Char) (cs : List Char) : List Char := (before c cs.reverse).reverse

/-- The parts between the occurrences of `c`, of which there is always one. -/
def pieces (c : Char) : List Char → List (List Char)
  | [] => [[]]
  | d :: rest =>
    if d = c then [] :: pieces c rest
    else
      match pieces c rest with
      | [] => [[d]]
      | piece :: more => (d :: piece) :: more

/-- The parts of a text between the occurrences of `c`. -/
def split (c : Char) (text : String) : List String := (pieces c text.toList).map String.ofList

theorem before_of_not_mem {c : Char} {cs : List Char} (h : c ∉ cs) : before c cs = cs := by
  induction cs with
  | nil => rfl
  | cons d rest ih =>
    have parts : ¬c = d ∧ c ∉ rest := by simpa using h
    simpa [before, Ne.symm parts.1] using ih parts.2

theorem pieces_ne_nil (c : Char) (cs : List Char) : pieces c cs ≠ [] := by
  cases cs with
  | nil => simp [pieces]
  | cons d rest =>
    unfold pieces
    repeat' split
    all_goals simp

end PageTrial.Text
