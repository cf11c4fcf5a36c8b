import PageTrial.Site.Tree
import PageTrial.Text.Quoted

/-!
# The directory to be served

A directory to be served is looked for twice. First it must be a directory as it stands; then, if
its name begins with a tilde, it is looked for again from the home directory that the tilde stands
for.
-/

set_option autoImplicit false

namespace PageTrial.Site

/-- Why a directory cannot be served. -/
inductive Flaw where
  | notADirectory (path : Path)
  | nameTooLong (path : Path)
  /-- The path sets out from the home directory of an account that there is not. -/
  | noHome
  /-- The path leads nowhere from the home directory that it sets out from. -/
  | notInHome (path : Path)
  deriving Repr, DecidableEq

def Flaw.message : Flaw → String
  | .notADirectory path => "Cannot serve " ++ path.text ++ ": not a directory"
  | .nameTooLong path => "[Errno 36] File name too long: " ++ Text.quoted path.text
  | .noHome => "Could not determine home directory."
  | .notInHome path => "'" ++ path.text ++ "' does not exist"

/-- Where a directory is once a tilde in front of it has been dealt with. -/
def settle (files : Tree) (directory : Path) (place : List String) :
    Except Flaw (List String) :=
  match directory.account? with
  | none => .ok place
  | some account =>
    match files.homes.lookup account with
    | none => .error .noHome
    | some home =>
      match files.directory? ⟨1, home ++ directory.names.drop 1⟩ with
      | .ok found => .ok found
      | .error _ => .error (.notInHome directory)

/-- Where the directory is that is to be served. -/
def placeOf (files : Tree) (directory : Path) : Except Flaw (List String) :=
  match files.directory? directory with
  | .ok place => settle files directory place
  | .error .missing => .error (.notADirectory directory)
  | .error .nameTooLong => .error (.nameTooLong directory)

end PageTrial.Site
