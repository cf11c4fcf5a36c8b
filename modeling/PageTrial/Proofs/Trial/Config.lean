import PageTrial.Proofs.Clock.Double
import PageTrial.Proofs.Declaration
import PageTrial.Trial.Config.Reader

/-!
# Configurations that can be polled with

Polling needs a timeout above zero and an interval that is not below it. The declaration of a
configuration demands both, and numbers are compared as doubles, so one that is no number is refused
however it was written. `Accepts` says what an accepted configuration holds, and `Faulted` which
errors the other objects meet. A declared field is never assigned later on, so the bounds outlast
whatever is tried with the configuration (`construct_well_defined`).
-/

set_option autoImplicit false

namespace PageTrial.Trial.Config

open Fields

/-- A field holds a text, which was given for it or is its default. -/
def HoldsText (library : Library) (members : Json.Members) (config : library.Instance declaration)
    (name default s : String) : Prop :=
  library.get config name = some (.text s) ∧
    Supplied members name default (fun value s => value = .str s ∨ value = .broken s) s

/-- A field holds a number that keeps to a bound and was given for it, in whatever form the library
takes numbers, or is its default. -/
def HoldsNumber (library : Library) (members : Json.Members)
    (config : library.Instance declaration) (name : String) (default : Float) (bound : Bound)
    (x : Float) : Prop :=
  library.get config name = some (.number x) ∧
    Supplied members name default (fun value x => library.number value = .ok x ∧ bound.Admits x) x

/-- The object for which a configuration stands that has been accepted. -/
structure Accepts (library : Library) (members : Json.Members)
    (config : library.Instance declaration) (seen : Config Float) : Prop where
  declared : ∀ member ∈ members, member.1 ∈ declaration.names
  url : HoldsText library members config "url" usual.url seen.url
  statusId : HoldsText library members config "status_element_id" usual.statusId seen.statusId
  outputId : HoldsText library members config "output_element_id" usual.outputId seen.outputId
  runningText : HoldsText library members config "running_text" usual.runningText seen.runningText
  successText : HoldsText library members config "success_text" usual.successText seen.successText
  timeout : HoldsNumber library members config "timeout" usual.timeout .positive seen.timeout
  pollInterval : HoldsNumber library members config "poll_interval" usual.pollInterval
    .nonnegative seen.pollInterval

/-- The errors that an object meets: one for each declared field whose member is refused, in the
order of declaration, and then one for each name that is not declared, in the order of the
object. -/
def Faulted (library : Library) (members : Json.Members) (errors : List FieldError) : Prop :=
  ∃ own strangers, Reports library.check members declaration.fields own ∧
    Strangers declaration.names members strangers ∧
    errors = own ++ strangers.map (⟨·, .undeclared⟩) ∧ errors ≠ []

variable {library : Library} {members : Json.Members} {config : library.Instance declaration}

/-! ## The fields -/

theorem accepts_of_construct (h : library.Documented)
    (hconfig : library.construct declaration members = .ok config) :
    Accepts library members config (ofInstance library config) where
  declared := h.declared_of_construct rfl hconfig
  url := h.text_supplied hconfig (by simp [declaration, declaredFields])
  statusId := h.text_supplied hconfig (by simp [declaration, declaredFields])
  outputId := h.text_supplied hconfig (by simp [declaration, declaredFields])
  runningText := h.text_supplied hconfig (by simp [declaration, declaredFields])
  successText := h.text_supplied hconfig (by simp [declaration, declaredFields])
  timeout := h.number_supplied hconfig (by simp [declaration, declaredFields])
  pollInterval := h.number_supplied hconfig (by simp [declaration, declaredFields])

theorem faulted_of_construct {errors : List FieldError} (h : library.Documented)
    (herrors : library.construct declaration members = .error errors) :
    Faulted library members errors := by
  obtain ⟨hcomplaints, hsome⟩ := h.construct_error.mp herrors
  have hforbids : declaration.forbidsOthers = true := rfl
  obtain ⟨own, strangers, hown, hstrangers, hall⟩ := complaints_reports hforbids _ _
  exact ⟨own, strangers, hown, hstrangers, hcomplaints.trans hall, hsome⟩

/-! ## The bounds -/

/-- A number that keeps to a bound is held if the default keeps to it. -/
theorem HoldsNumber.admits {name : String} {default x : Float} {bound : Bound}
    (h : HoldsNumber library members config name default bound x)
    (hdefault : bound.Admits default) :
    bound.Admits x :=
  h.2.holds hdefault fun _ _ hread => hread.2

theorem Accepts.timeout_pos {seen : Config Float} (h : Accepts library members config seen) :
    0 < seen.timeout :=
  h.timeout.admits (show (0 : Float) < usual.timeout by decide +kernel)

theorem Accepts.pollInterval_nonneg {seen : Config Float}
    (h : Accepts library members config seen) : 0 ≤ seen.pollInterval :=
  h.pollInterval.admits (show (0 : Float) ≤ usual.pollInterval by decide +kernel)

/-! ## Assignments -/

/-- Assigns one value after the other and keeps the answers. -/
def assignEach (library : Library) (config : library.Instance declaration) :
    List (String × Json) → library.Instance declaration × List (Except FieldError Unit)
  | [] => (config, [])
  | (name, value) :: rest =>
    let (assigned, answer) := library.assign config name value
    let (final, answers) := assignEach library assigned rest
    (final, answer :: answers)

/-- However often declared fields are assigned, each assignment is refused and all fields stay as
they are. -/
theorem assignEach_of_declared (h : library.Documented) (config : library.Instance declaration)
    {assignments : List (String × Json)}
    (hdeclared : ∀ assignment ∈ assignments, assignment.1 ∈ declaration.names) :
    ∃ kept, assignEach library config assignments =
        (kept, assignments.map fun assignment => .error ⟨assignment.1, .frozen⟩) ∧
      ∀ name, library.get kept name = library.get config name := by
  induction assignments generalizing config with
  | nil => exact ⟨config, rfl, fun _ => rfl⟩
  | cons assignment rest ih =>
    obtain ⟨name, value⟩ := assignment
    obtain ⟨assigned, hassign, hsame⟩ :=
      h.assign_frozen config value rfl (hdeclared (name, value) List.mem_cons_self)
    obtain ⟨kept, hrest, hkept⟩ :=
      ih assigned fun other hmem => hdeclared other (List.mem_cons_of_mem _ hmem)
    refine ⟨kept, ?_, fun other => (hkept other).trans (hsame other)⟩
    rw [assignEach, hassign]
    simp only [hrest, List.map_cons]

/-! ## What is built -/

/-- If an object is accepted as a configuration, all its names are declared, the texts are those
that it gives or else their defaults, and the numbers are what the library reads or else their
defaults, and keep to their bounds. The configuration can then be polled with: its timeout is above
zero and its interval is not below it, neither is a double that is no number, and no assignment to a
declared field changes that. An object that is not accepted meets one error for each declared field
that it has wrong and then one for each name that is not declared. -/
theorem construct_well_defined (h : library.Documented) (members : Json.Members) :
    (∀ config, library.construct declaration members = .ok config →
      let seen := ofInstance library config
      Accepts library members config seen ∧
      0 < seen.timeout ∧ seen.timeout.isNaN = false ∧
      0 ≤ seen.pollInterval ∧ seen.pollInterval.isNaN = false ∧
      ∀ assignments : List (String × Json),
        (∀ assignment ∈ assignments, assignment.1 ∈ declaration.names) →
        ∃ kept, assignEach library config assignments =
            (kept, assignments.map fun assignment => .error ⟨assignment.1, .frozen⟩) ∧
          ∀ name, library.get kept name = library.get config name) ∧
    ∀ errors, library.construct declaration members = .error errors →
      Faulted library members errors := by
  refine ⟨fun config hconfig => ?_, fun errors => faulted_of_construct h⟩
  have haccepts := accepts_of_construct h hconfig
  have hpos := haccepts.timeout_pos
  have hnonneg := haccepts.pollInterval_nonneg
  exact ⟨haccepts, hpos, Double.isNaN_of_le (Double.le_of_lt hpos), hnonneg,
    Double.isNaN_of_le hnonneg, fun _ hdeclared => assignEach_of_declared h config hdeclared⟩

/-- Two numbers in texts, one of them a zero below zero. -/
def numbersInTexts : Json.Members := [("poll_interval", .str "-0.0"), ("timeout", .str " 1e3 ")]

/-- Two fields with something wrong, and a name that is not declared. -/
def threeWrong : Json.Members := [("x", .null), ("timeout", .str "nan"), ("url", .int 1)]

theorem construct_well_defined_lax :
    (∃ config, Library.lax.construct declaration numbersInTexts = .ok config ∧
      0 < (ofInstance .lax config).timeout ∧ 0 ≤ (ofInstance .lax config).pollInterval ∧
      ∃ kept, assignEach .lax config [("timeout", .int (-1))] =
        (kept, [.error ⟨"timeout", .frozen⟩])) ∧
    Faulted .lax threeWrong
      [⟨"url", .notText⟩, ⟨"timeout", .notPositive⟩, ⟨"x", .undeclared⟩] := by
  constructor
  · have haccepted : (Library.lax.construct declaration numbersInTexts).isOk = true := by
      decide +kernel
    cases hconfig : Library.lax.construct declaration numbersInTexts with
    | error errors =>
      rw [hconfig] at haccepted
      cases haccepted
    | ok config =>
      obtain ⟨-, hpos, -, hnonneg, -, hassign⟩ :=
        (construct_well_defined Library.lax_documented numbersInTexts).1 config hconfig
      obtain ⟨kept, hkept, -⟩ := hassign [("timeout", .int (-1))] (by decide)
      exact ⟨config, rfl, hpos, hnonneg, kept, hkept⟩
  · have hcomplaints : declaration.complaints Library.laxCheck threeWrong =
        [⟨"url", .notText⟩, ⟨"timeout", .notPositive⟩, ⟨"x", .undeclared⟩] := by decide +kernel
    refine (construct_well_defined Library.lax_documented threeWrong).2 _ ?_
    exact Library.laxConstruct_error.mpr ⟨hcomplaints.symm, List.cons_ne_nil _ _⟩

end PageTrial.Trial.Config
