import PageTrial.Proofs.Site.Framework
import PageTrial.Site.Application

/-!
# All responses are isolated

A page server prepares each response before it is sent, however the response came about: out of a
file, from the router or from a refusal. That a response isolates its page therefore does not depend
on the request. It is a fact about setting headers one after the other.
-/

set_option autoImplicit false

namespace PageTrial.Site

variable {framework : Framework}

/-- A response isolates its page, and it is otherwise the response that was to be sent. -/
structure Response.Isolates (answered sent : Response) : Prop where
  opener : sent.values "Cross-Origin-Opener-Policy" = ["same-origin"]
  embedder : sent.values "Cross-Origin-Embedder-Policy" = ["require-corp"]
  status : sent.status = answered.status
  body : sent.body = answered.body
  others : ∀ name, (∀ header ∈ isolationHeaders, sameHeader header.1 name = false) →
    sent.values name = answered.values name

theorem isolationHeaders_distinct : isolationHeaders.Pairwise fun header later =>
    sameHeader later.1 header.1 = false := by
  decide

theorem Framework.Documented.isolates (h : framework.Documented) (request : Request)
    (response : Response) : Response.Isolates response (framework.isolate request response) where
  opener := h.values_setHeaders isolationHeaders_distinct
    (show ("Cross-Origin-Opener-Policy", "same-origin") ∈ isolationHeaders by decide) response
  embedder := h.values_setHeaders isolationHeaders_distinct
    (show ("Cross-Origin-Embedder-Policy", "require-corp") ∈ isolationHeaders by decide) response
  status := rfl
  body := rfl
  others _ other := h.values_setHeaders_of_other other response

namespace Application

/-- Whatever is asked of a page server, what it sends isolates the page: each of the two headers is
there once, with the value that isolates. Apart from them the answer is what the framework made of
the request. -/
theorem respond_isolates (h : framework.Documented) (directory : Path) (files : Tree)
    (request : Request) :
    let app := create framework directory
    Response.Isolates (framework.answer app files request)
      (framework.respond app files request) := by
  intro app
  rw [h.prepares]
  exact h.isolates request _

/-- A method that is not allowed is refused by a response that isolates. -/
theorem respond_isolates_post :
    let app := create .plain ⟨1, ["site"]⟩
    let sent := Framework.plain.respond app {} { method := "POST", path := "/" }
    sent.status = 405 ∧ sent.values "Cross-Origin-Opener-Policy" = ["same-origin"] ∧
      sent.values "Cross-Origin-Embedder-Policy" = ["require-corp"] := by
  intro app sent
  have isolates := respond_isolates Framework.plain_documented ⟨1, ["site"]⟩ {}
    { method := "POST", path := "/" }
  refine ⟨isolates.status.trans ?_, isolates.opener, isolates.embedder⟩
  decide

end Application

end PageTrial.Site
