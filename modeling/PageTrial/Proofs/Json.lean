import PageTrial.Json

/-!
# The members of an object by name

Of several members of one name the last one counts (`Last`). A text can also be left out, in two
ways (`GivesText`). A member that is put behind all others counts for its own name and for no other
(`last_concat`, `last_concat_self`).
-/

set_option autoImplicit false

namespace PageTrial

namespace Json

/-- The last member of a name in an object has this value. -/
def Last (name : String) (members : Members) (value : Json) : Prop :=
  ∃ front back, members = front ++ (name, value) :: back ∧ ∀ member ∈ back, member.1 ≠ name

/-- A text that an object gives under a name, or none: the last member with the name is null, or
there is no such member. -/
inductive GivesText (name : String) (members : Members) : Option String → Prop
  | absent : (∀ member ∈ members, member.1 ≠ name) → GivesText name members none
  | null : Last name members .null → GivesText name members none
  | text {s : String} : Last name members (.str s) → GivesText name members (some s)
  | broken {s : String} : Last name members (.broken s) → GivesText name members (some s)

variable {name : String} {members : Members} {value : Json}

theorem lookup_eq_none_iff : lookup name members = none ↔ ∀ member ∈ members, member.1 ≠ name := by
  induction members with
  | nil => simp [lookup]
  | cons member rest ih =>
    obtain ⟨key, given⟩ := member
    cases hrest : lookup name rest with
    | none =>
      have hnone := ih.mp hrest
      by_cases hkey : key = name
      · simp [lookup, hrest, hkey]
      · simpa [lookup, hrest, hkey] using hnone
    | some later =>
      have hsome : ¬ ∀ member ∈ rest, member.1 ≠ name := fun h => by simp [ih.mpr h] at hrest
      simp only [lookup, hrest, reduceCtorEq, false_iff]
      exact fun h => hsome fun member hmem => h member (List.mem_cons_of_mem _ hmem)

theorem lookup_eq_some_iff : lookup name members = some value ↔ Last name members value := by
  constructor
  · intro h
    induction members with
    | nil => cases h
    | cons member rest ih =>
      obtain ⟨key, given⟩ := member
      cases hrest : lookup name rest with
      | some later =>
        obtain rfl : later = value := by simpa [lookup, hrest] using h
        obtain ⟨front, back, rfl, hback⟩ := ih hrest
        exact ⟨(key, given) :: front, back, rfl, hback⟩
      | none =>
        obtain ⟨rfl, rfl⟩ : key = name ∧ given = value := by simpa [lookup, hrest] using h
        exact ⟨[], rest, rfl, lookup_eq_none_iff.mp hrest⟩
  · rintro ⟨front, back, rfl, hback⟩
    rw [lookup_append, lookup, lookup_eq_none_iff.mpr hback]
    simp

theorem last_concat {key : String} {added : Json} (h : key ≠ name) :
    Last name (members ++ [(key, added)]) value ↔ Last name members value := by
  rw [← lookup_eq_some_iff, ← lookup_eq_some_iff, lookup_append]
  simp [lookup, h]

theorem last_concat_self {added : Json} :
    Last name (members ++ [(name, added)]) value ↔ added = value := by
  rw [← lookup_eq_some_iff, lookup_concat_self, Option.some_inj]

theorem GivesText.of_concat {key : String} {added : Json} {given : Option String}
    (h : GivesText name (members ++ [(key, added)]) given) (hname : key ≠ name) :
    GivesText name members given := by
  cases h with
  | absent hnone => exact .absent fun member hmem => hnone member (List.mem_append_left _ hmem)
  | null hlast => exact .null ((last_concat hname).mp hlast)
  | text hlast => exact .text ((last_concat hname).mp hlast)
  | broken hlast => exact .broken ((last_concat hname).mp hlast)

/-! ## Names -/

/-- What is left of a list without repetitions stands in the order of the list, each name once. -/
theorem eraseDups_ordered (all : List String) :
    all.eraseDups.Sublist all ∧ all.eraseDups.Nodup := by
  match all with
  | [] => exact ⟨.slnil, .nil⟩
  | name :: rest =>
    obtain ⟨hsublist, hnodup⟩ := eraseDups_ordered (rest.filter fun other => !other == name)
    rw [List.eraseDups_cons]
    refine ⟨(hsublist.trans List.filter_sublist).cons_cons _, List.nodup_cons.mpr ⟨?_, hnodup⟩⟩
    simp [List.mem_eraseDups]
termination_by all.length
decreasing_by exact Nat.lt_succ_of_le (List.length_filter_le _ _)

end Json

end PageTrial
