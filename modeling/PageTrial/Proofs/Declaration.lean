import Mathlib.Tactic.Common
import PageTrial.Declaration
import PageTrial.Proofs.Json

/-!
# What follows from what is known of a library

What is wrong with an object is found field by field. `Reports` is the list that comes of it, with
one error for each field whose member is refused, in the order of declaration, and `Strangers` are
the names that are not declared. `complaints_reports` finds both in the complaints of a declaration.
What a configuration holds that was built is `Supplied` by the object, or a default.

There is a library of which everything that is to be known can be proved (`lax_documented`).
-/

set_option autoImplicit false

namespace PageTrial

namespace Fields

variable {α : Type} {name : String} {members : Json.Members}
variable {check : Demand → Json → Except Flaw Value}

/-! ## What a field holds -/

/-- What a field holds: the default if the object has no member of its name, and else what is read
from the last one. -/
inductive Supplied (members : Json.Members) (name : String) (default : α)
    (reads : Json → α → Prop) : α → Prop
  | omitted : (∀ member ∈ members, member.1 ≠ name) → Supplied members name default reads default
  | given {value : Json} {a : α} : Json.Last name members value → reads value a →
    Supplied members name default reads a

/-- What holds of the default and of all that is read holds of what a field holds. -/
theorem Supplied.holds {P : α → Prop} {default a : α} {reads : Json → α → Prop}
    (h : Supplied members name default reads a) (hdefault : P default)
    (hreads : ∀ value a, reads value a → P a) : P a := by
  cases h with
  | omitted _ => exact hdefault
  | given _ hread => exact hreads _ _ hread

/-! ## The report on all fields -/

/-- The errors of some fields: for each field whose member is refused there is one, in the order of
the fields. -/
inductive Reports (check : Demand → Json → Except Flaw Value) (members : Json.Members) :
    List Field → List FieldError → Prop
  | nil : Reports check members [] []
  | sound {field : Field} {rest : List Field} {errors : List FieldError} :
    (∀ value, Json.Last field.name members value → ∃ held, check field.demand value = .ok held) →
    Reports check members rest errors → Reports check members (field :: rest) errors
  | faulty {field : Field} {rest : List Field} {errors : List FieldError} {value : Json}
      {flaw : Flaw} :
    Json.Last field.name members value → check field.demand value = .error flaw →
    Reports check members rest errors →
    Reports check members (field :: rest) (⟨field.name, flaw⟩ :: errors)

theorem complaint?_eq_none_iff {field : Field} :
    Declaration.complaint? check members field = none ↔
      ∀ value, Json.Last field.name members value →
        ∃ held, check field.demand value = .ok held := by
  unfold Declaration.complaint?
  simp only [← Json.lookup_eq_some_iff]
  cases Json.lookup field.name members with
  | none => simp
  | some value => cases hcheck : check field.demand value <;> simp [hcheck]

theorem complaint?_eq_some_iff {field : Field} {error : FieldError} :
    Declaration.complaint? check members field = some error ↔
      ∃ value flaw, Json.Last field.name members value ∧
        check field.demand value = .error flaw ∧ error = ⟨field.name, flaw⟩ := by
  unfold Declaration.complaint?
  simp only [← Json.lookup_eq_some_iff]
  cases Json.lookup field.name members with
  | none => simp
  | some value => cases hcheck : check field.demand value <;> simp [hcheck, eq_comm]

theorem filterMap_reports (fields : List Field) :
    Reports check members fields (fields.filterMap (Declaration.complaint? check members)) := by
  induction fields with
  | nil => exact .nil
  | cons field rest ih =>
    cases hcomplaint : Declaration.complaint? check members field with
    | none =>
      rw [List.filterMap_cons_none hcomplaint]
      exact .sound (complaint?_eq_none_iff.mp hcomplaint) ih
    | some error =>
      obtain ⟨value, flaw, hlast, hcheck, rfl⟩ := complaint?_eq_some_iff.mp hcomplaint
      rw [List.filterMap_cons_some hcomplaint]
      exact .faulty hlast hcheck ih

/-! ## Names that are not declared -/

/-- The names in an object that are not declared, each once, in the order of the object. -/
structure Strangers (declared : List String) (members : Json.Members) (names : List String) :
    Prop where
  complete : ∀ name, name ∈ names ↔ name ∈ members.map (·.1) ∧ name ∉ declared
  ordered : names.Sublist (members.map (·.1))
  nodup : names.Nodup

theorem undeclared_strangers (declared : List String) (members : Json.Members) :
    ∃ names, Strangers declared members names ∧
      undeclared declared members = names.map (⟨·, .undeclared⟩) := by
  obtain ⟨hsublist, hnodup⟩ := Json.eraseDups_ordered (members.map (·.1))
  refine ⟨_, ⟨fun name => ?_, List.filter_sublist.trans hsublist, hnodup.filter _⟩, rfl⟩
  simp [List.mem_eraseDups]

/-- What is wrong with an object: the report on the declared fields, and behind it one error for
each name that is not declared. -/
theorem complaints_reports {declaration : Declaration}
    (hforbids : declaration.forbidsOthers = true) (check : Demand → Json → Except Flaw Value)
    (members : Json.Members) :
    ∃ own strangers, Reports check members declaration.fields own ∧
      Strangers declaration.names members strangers ∧
      declaration.complaints check members = own ++ strangers.map (⟨·, .undeclared⟩) := by
  obtain ⟨strangers, hstrangers, hundeclared⟩ := undeclared_strangers declaration.names members
  refine ⟨_, strangers, filterMap_reports declaration.fields, hstrangers, ?_⟩
  rw [Declaration.complaints, if_pos hforbids, hundeclared]

/-! ## What is built -/

namespace Library.Documented

variable {library : Library} {declaration : Declaration} {field : Field}
variable {config : library.Instance declaration}

/-- Nothing is wrong with an object of which a configuration is built. -/
theorem complaints_of_construct (h : library.Documented)
    (hconfig : library.construct declaration members = .ok config) :
    declaration.complaints library.check members = [] := by
  by_contra hsome
  rw [h.construct_error.mpr ⟨rfl, hsome⟩] at hconfig
  cases hconfig

theorem declared_of_construct (h : library.Documented)
    (hforbids : declaration.forbidsOthers = true)
    (hconfig : library.construct declaration members = .ok config) :
    ∀ member ∈ members, member.1 ∈ declaration.names := by
  obtain ⟨own, strangers, -, hstrangers, hcomplaints⟩ :=
    complaints_reports hforbids library.check members
  rw [h.complaints_of_construct hconfig] at hcomplaints
  obtain ⟨-, hnone⟩ := List.append_eq_nil_iff.mp hcomplaints.symm
  intro member hmember
  by_contra hother
  have hstranger : member.1 ∈ strangers :=
    (hstrangers.complete _).mpr ⟨List.mem_map_of_mem hmember, hother⟩
  rw [List.map_eq_nil_iff.mp hnone] at hstranger
  cases hstranger

/-- A field holds what the object gives for it, checked, or its default. -/
theorem supplied (h : library.Documented)
    (hconfig : library.construct declaration members = .ok config)
    (hfield : field ∈ declaration.fields) :
    ∃ held, library.get config field.name = some held ∧
      Supplied members field.name field.default
        (fun value held => library.check field.demand value = .ok held) held := by
  cases hlookup : Json.lookup field.name members with
  | none =>
    exact ⟨_, h.get_default hconfig hfield hlookup, .omitted (Json.lookup_eq_none_iff.mp hlookup)⟩
  | some value =>
    have hlast := Json.lookup_eq_some_iff.mp hlookup
    have hnone : Declaration.complaint? library.check members field = none := by
      have hcomplaints := h.complaints_of_construct hconfig
      obtain ⟨hfields, -⟩ := List.append_eq_nil_iff.mp hcomplaints
      exact List.filterMap_eq_nil_iff.mp hfields field hfield
    obtain ⟨held, hcheck⟩ := complaint?_eq_none_iff.mp hnone value hlast
    exact ⟨held, h.get_given hconfig hfield hlookup hcheck, .given hlast hcheck⟩

/-! ## What is held under a name -/

theorem text_supplied (h : library.Documented)
    (hconfig : library.construct declaration members = .ok config) {default : String}
    (hfield : ⟨name, .text, .text default⟩ ∈ declaration.fields) :
    library.get config name = some (.text (library.textAt config name)) ∧
      Supplied members name default (fun value s => value = .str s ∨ value = .broken s)
        (library.textAt config name) := by
  obtain ⟨held, hget, hsupplied⟩ := h.supplied hconfig hfield
  have htext : ∃ s, held = .text s ∧
      Supplied members name default (fun value s => value = .str s ∨ value = .broken s) s := by
    cases hsupplied with
    | omitted hnone => exact ⟨default, rfl, .omitted hnone⟩
    | given hlast hcheck =>
      obtain ⟨s, hvalue, rfl⟩ := h.check_text hcheck
      exact ⟨s, rfl, .given hlast hvalue⟩
  obtain ⟨s, rfl, htext⟩ := htext
  have hheld : library.textAt config name = s := by simp only [textAt, hget]
  rw [hheld]
  exact ⟨hget, htext⟩

theorem number_supplied (h : library.Documented)
    (hconfig : library.construct declaration members = .ok config) {default : Float}
    {bound : Bound} (hfield : ⟨name, .number bound, .number default⟩ ∈ declaration.fields) :
    library.get config name = some (.number (library.numberAt config name)) ∧
      Supplied members name default (fun value x => library.number value = .ok x ∧ bound.Admits x)
        (library.numberAt config name) := by
  obtain ⟨held, hget, hsupplied⟩ := h.supplied hconfig hfield
  have hnumber : ∃ x, held = .number x ∧ Supplied members name default
      (fun value x => library.number value = .ok x ∧ bound.Admits x) x := by
    cases hsupplied with
    | omitted hnone => exact ⟨default, rfl, .omitted hnone⟩
    | given hlast hcheck =>
      obtain ⟨x, hvalue, hadmits, rfl⟩ := h.check_number.mp hcheck
      exact ⟨x, rfl, .given hlast ⟨hvalue, hadmits⟩⟩
  obtain ⟨x, rfl, hnumber⟩ := hnumber
  have hheld : library.numberAt config name = x := by simp only [numberAt, hget]
  rw [hheld]
  exact ⟨hget, hnumber⟩

/-- A text that need not be given is held as the object gives it. -/
theorem optionalText_given (h : library.Documented)
    (hconfig : library.construct declaration members = .ok config)
    (hfield : ⟨name, .optionalText, .nothing⟩ ∈ declaration.fields) :
    Json.GivesText name members (library.optionalTextAt config name) := by
  obtain ⟨held, hget, hsupplied⟩ := h.supplied hconfig hfield
  replace hget : library.get config name = some held := hget
  simp only [optionalTextAt, hget]
  cases hsupplied with
  | omitted hnone => exact .absent hnone
  | given hlast hcheck =>
    rcases h.check_optionalText hcheck with ⟨rfl, rfl⟩ | ⟨s, rfl | rfl, rfl⟩
    · exact .null hlast
    · exact .text hlast
    · exact .broken hlast

/-- A truth value that is given last is held as it is. -/
theorem truth_given (h : library.Documented)
    (hconfig : library.construct declaration members = .ok config) {default : Value}
    (hfield : ⟨name, .truth, default⟩ ∈ declaration.fields) {b : Bool}
    (hlast : Json.Last name members (.bool b)) : library.truthAt config name = b := by
  have hlookup := Json.lookup_eq_some_iff.mpr hlast
  obtain ⟨held, hget, hsupplied⟩ := h.supplied hconfig hfield
  have hheld : held = .truth b := by
    cases hsupplied with
    | omitted hnone =>
      rw [Json.lookup_eq_none_iff.mpr hnone] at hlookup
      cases hlookup
    | given hother hcheck =>
      rw [Json.lookup_eq_some_iff.mpr hother] at hlookup
      cases hlookup
      exact h.check_truth hcheck
  simp only [truthAt, hget, hheld]

end Library.Documented

/-! ## A library that takes numbers in many forms -/

namespace Library

theorem laxCheck_text {value : Json} {held : Value} (h : laxCheck .text value = .ok held) :
    ∃ s, (value = .str s ∨ value = .broken s) ∧ held = .text s := by
  cases value with
  | str s | broken s =>
    cases h
    exact ⟨s, by simp, rfl⟩
  | null | bool | int | float | arr | obj => cases h

theorem laxCheck_optionalText {value : Json} {held : Value}
    (h : laxCheck .optionalText value = .ok held) :
    value = .null ∧ held = .nothing ∨
      ∃ s, (value = .str s ∨ value = .broken s) ∧ held = .text s := by
  cases value with
  | null =>
    cases h
    exact .inl ⟨rfl, rfl⟩
  | str s | broken s =>
    cases h
    exact .inr ⟨s, by simp, rfl⟩
  | bool | int | float | arr | obj => cases h

theorem laxCheck_number {bound : Bound} {value : Json} {held : Value} :
    laxCheck (.number bound) value = .ok held ↔
      ∃ x, seconds value = .ok x ∧ bound.Admits x ∧ held = .number x := by
  rw [laxCheck]
  cases seconds value with
  | error flaw => simp [Except.bind]
  | ok x => by_cases hadmits : bound.Admits x <;> simp [Except.bind, Bound.check, hadmits, eq_comm]

/-- What is listed for fields of which no two have one name is found under their names. -/
theorem lookup_laxValues {fields : List Field} {field : Field} (members : Json.Members)
    (distinct : (fields.map (·.name)).Nodup) (hfield : field ∈ fields) :
    (fields.map fun field => (field.name, laxValue members field)).lookup field.name =
      some (laxValue members field) := by
  induction fields with
  | nil => cases hfield
  | cons first rest ih =>
    rw [List.map_cons, List.nodup_cons] at distinct
    rw [List.map_cons, List.lookup_cons]
    rcases List.mem_cons.mp hfield with rfl | hlater
    · rw [beq_self_eq_true]
    · have apart : (field.name == first.name) = false := by
        refine beq_false_of_ne fun same => distinct.1 ?_
        rw [← same]
        exact List.mem_map_of_mem hlater
      rw [apart]
      exact ih distinct.2 hlater

theorem get_of_laxConstruct {declaration : Declaration} {members : Json.Members}
    {config : List (String × Value)} {field : Field}
    (h : laxConstruct declaration members = .ok config) (hfield : field ∈ declaration.fields) :
    config.lookup field.name = some (laxValue members field) := by
  unfold laxConstruct at h
  dsimp only at h
  split at h
  · cases h
    exact lookup_laxValues members declaration.distinct hfield
  · cases h

theorem laxConstruct_error {declaration : Declaration} {members : Json.Members}
    {errors : List FieldError} :
    laxConstruct declaration members = .error errors ↔
      errors = declaration.complaints laxCheck members ∧ errors ≠ [] := by
  unfold laxConstruct
  cases declaration.complaints laxCheck members with
  | nil => simp
  | cons first rest =>
    constructor
    · intro h
      cases h
      exact ⟨rfl, List.cons_ne_nil _ _⟩
    · rintro ⟨rfl, -⟩
      rfl

theorem lax_documented : lax.Documented where
  check_text := laxCheck_text
  check_optionalText := laxCheck_optionalText
  check_truth h := by
    cases h
    rfl
  check_number := laxCheck_number
  construct_error := laxConstruct_error
  get_default := by
    intro declaration members config field hconfig hfield hlookup
    refine (get_of_laxConstruct hconfig hfield).trans ?_
    rw [laxValue, hlookup]
  get_given := by
    intro declaration members config field value held hconfig hfield hlookup hcheck
    replace hcheck : laxCheck field.demand value = .ok held := hcheck
    refine (get_of_laxConstruct hconfig hfield).trans ?_
    simp only [laxValue, hlookup, hcheck, Except.toOption, Option.getD_some]
  assign_frozen config name _ _ _ := ⟨config, rfl, fun _ => rfl⟩

end Library

end Fields

end PageTrial
