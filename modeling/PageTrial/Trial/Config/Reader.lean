import PageTrial.Declaration
import PageTrial.Trial.Config

/-!
# Reading what is tested

The configuration of a test is declared here. It is built from the members of a JSON object by a
library; names that are not declared are refused, and a configuration that has been accepted is
frozen.
-/

set_option autoImplicit false

namespace PageTrial.Trial.Config

open PageTrial.Fields

def declaredFields : List Field := [
  ⟨"url", .text, .text usual.url⟩,
  ⟨"status_element_id", .text, .text usual.statusId⟩,
  ⟨"output_element_id", .text, .text usual.outputId⟩,
  ⟨"running_text", .text, .text usual.runningText⟩,
  ⟨"success_text", .text, .text usual.successText⟩,
  ⟨"timeout", .number .positive, .number usual.timeout⟩,
  ⟨"poll_interval", .number .nonnegative, .number usual.pollInterval⟩]

def declaration : Declaration where
  fields := declaredFields
  forbidsOthers := true
  frozen := true
  distinct := by decide

/-- What a test gets to see of a configuration. -/
def ofInstance (library : Library) (config : library.Instance declaration) : Config Float where
  url := library.textAt config "url"
  statusId := library.textAt config "status_element_id"
  outputId := library.textAt config "output_element_id"
  runningText := library.textAt config "running_text"
  successText := library.textAt config "success_text"
  timeout := library.numberAt config "timeout"
  pollInterval := library.numberAt config "poll_interval"

/-- Reads a configuration. -/
def ofMembers (members : Json.Members) : Checked (Config Float) :=
  (Library.lax.construct declaration members).map (ofInstance .lax)

end PageTrial.Trial.Config
