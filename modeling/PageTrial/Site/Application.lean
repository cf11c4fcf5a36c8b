import PageTrial.Site.Isolation

/-!
# The page server of a directory

The root of the site gives the file `index.html` of the directory, if it is a regular file at the
time of the request. Every other path is left to the framework, which looks for it in the directory.
All that is sent isolates its page.
-/

set_option autoImplicit false

namespace PageTrial.Site

def indexName : String := "index.html"

/-- Handles requests for the root: the file is looked for anew each time. -/
def indexHandler (directory : Path) (files : Tree) : Except Tree.Stop Handled :=
  let index := directory.child indexName
  match files.find index with
  | .ok (.file _) => .ok (.file index)
  | .ok .directory | .error .missing => .ok (.error 404)
  | .error .nameTooLong => .error .nameTooLong

def Application.create (framework : Framework) (directory : Path) : Application where
  preparations := [framework.isolate]
  routes := [.get "/" (indexHandler directory), .static directory]

end PageTrial.Site
