import PageTrial.Script

/-!
# The elements that were found on a page

An element has its texts and the number of its reads. Elements are made one after the other, and a
handle is the place of one of them. Which element was found under which id stands in a table, so
that whoever looks an id up again gets the same element and reads on in its texts.
-/

set_option autoImplicit false

namespace PageTrial

variable {τ : Type}

/-- An element with texts that are prepared. -/
structure Scripted (τ : Type) where
  texts : Script τ String
  reads : Nat := 0

namespace Scripted

/-- What the next read gives; nothing only if no text has been prepared. -/
def next? (element : Scripted τ) : Option (Prepared τ String) :=
  element.texts.answer? element.reads

def advance (element : Scripted τ) : Scripted τ := { element with reads := element.reads + 1 }

end Scripted

/-- The elements that were made, in order, and the table of the ids under which they were found. The
table leads to elements that there are, and under no two ids to the same one. -/
structure Roster (τ : Type) where
  made : List (Scripted τ)
  places : List (String × Nat)
  valid : ∀ id place, places.lookup id = some place → place < made.length
  distinct : ∀ id other place, places.lookup id = some place →
    places.lookup other = some place → id = other

namespace Roster

/-- Before anything has been found. -/
def empty : Roster τ where
  made := []
  places := []
  valid := by simp
  distinct := by simp

/-- The place of the element that was found under an id. -/
def place? (roster : Roster τ) (id : String) : Option Nat := roster.places.lookup id

/-- The element that was found under an id. -/
def element? (roster : Roster τ) (id : String) : Option (Scripted τ) :=
  (roster.place? id).bind fun place => roster.made[place]?

/-- How often the element was read that was found under an id. -/
def count (roster : Roster τ) (id : String) : Nat :=
  ((roster.element? id).map Scripted.reads).getD 0

theorem lookup_concat (places : List (String × Nat)) (id other : String) (place : Nat) :
    (places ++ [(id, place)]).lookup other =
      (places.lookup other).or (if other = id then some place else none) := by
  rw [List.lookup_append]
  by_cases same : other = id
  · simp [same]
  · have differs : (other == id) = false := by simpa using same
    simp [same, List.lookup_cons, differs]

/-- Makes an element and puts it into the table. An id that is in the table already stays where it
is. -/
def add (roster : Roster τ) (id : String) (texts : Script τ String) : Roster τ where
  made := roster.made ++ [{ texts }]
  places := roster.places ++ [(id, roster.made.length)]
  valid := by
    intro other place h
    rw [lookup_concat, Option.or_eq_some_iff] at h
    rw [List.length_append, List.length_singleton]
    rcases h with hold | ⟨-, hnew⟩
    · exact Nat.lt_succ_of_lt (roster.valid other place hold)
    · split at hnew
      · cases hnew
        exact Nat.lt_succ_self _
      · cases hnew
  distinct := by
    -- An element that was there before has another place than the new one.
    have apart {other : String} (hold : roster.places.lookup other = some roster.made.length) :
        False := Nat.lt_irrefl _ (roster.valid other _ hold)
    intro one other place hone hother
    rw [lookup_concat, Option.or_eq_some_iff] at hone hother
    rcases hone with hone | ⟨-, hone⟩ <;> rcases hother with hother | ⟨-, hother⟩
    · exact roster.distinct one other place hone hother
    · split at hother
      · cases hother
        exact (apart hone).elim
      · cases hother
    · split at hone
      · cases hone
        exact (apart hother).elim
      · cases hone
    · split at hone <;> split at hother
      · next hone' hother' => rw [hone', hother']
      · cases hother
      · cases hone
      · cases hone

/-- The element of an id, which is made only if none was found under it before. Gives its place. -/
def enter (roster : Roster τ) (id : String) (texts : Script τ String) : Nat × Roster τ :=
  match roster.place? id with
  | some place => (place, roster)
  | none => (roster.made.length, roster.add id texts)

/-- Counts a read of the element at a place. -/
def advance (roster : Roster τ) (place : Nat) : Roster τ where
  made := roster.made.modify place Scripted.advance
  places := roster.places
  valid := by simpa using roster.valid
  distinct := roster.distinct

/-! ## What is found after each operation -/

variable {roster : Roster τ} {id : String} {place : Nat}

@[simp] theorem made_empty : (empty : Roster τ).made = [] := rfl

@[simp] theorem element?_empty (id : String) : (empty : Roster τ).element? id = none := rfl

@[simp] theorem place?_advance (roster : Roster τ) (place : Nat) (id : String) :
    (roster.advance place).place? id = roster.place? id := rfl

/-- A place in the table is the place of an element. -/
theorem exists_of_place (h : roster.place? id = some place) :
    ∃ element, roster.made[place]? = some element ∧ roster.element? id = some element := by
  have hlength : place < roster.made.length := roster.valid id place h
  have hmade : roster.made[place]? = some roster.made[place] := List.getElem?_eq_getElem hlength
  exact ⟨_, hmade, by rw [element?, h, Option.bind_some, hmade]⟩

theorem made_of_place (h : roster.place? id = some place) :
    roster.made[place]? = roster.element? id := by
  rw [element?, h, Option.bind_some]

theorem element?_eq_none (h : roster.place? id = none) : roster.element? id = none := by
  rw [element?, h, Option.bind_none]

/-- Looking an id up again changes nothing. -/
theorem enter_of_place (h : roster.place? id = some place) (texts : Script τ String) :
    roster.enter id texts = (place, roster) := by rw [enter, h]

theorem enter_of_new (h : roster.place? id = none) (texts : Script τ String) :
    roster.enter id texts = (roster.made.length, roster.add id texts) := by rw [enter, h]

theorem place?_add (h : roster.place? id = none) (texts : Script τ String) (other : String) :
    (roster.add id texts).place? other =
      if other = id then some roster.made.length else roster.place? other := by
  show (roster.places ++ [(id, roster.made.length)]).lookup other = _
  rw [lookup_concat]
  by_cases same : other = id
  · subst same
    rw [show roster.places.lookup other = none from h]
    simp
  · rw [if_neg same, if_neg same, Option.or_none]
    rfl

/-- From a lookup on, the table leads to the element that was given out. -/
theorem place?_enter (roster : Roster τ) (id : String) (texts : Script τ String) (other : String) :
    (roster.enter id texts).2.place? other =
      if other = id then some (roster.enter id texts).1 else roster.place? other := by
  cases h : roster.place? id with
  | some place =>
    rw [enter_of_place h]
    by_cases same : other = id
    · rw [if_pos same, same, h]
    · rw [if_neg same]
  | none => rw [enter_of_new h, place?_add h]

/-- What stands in the table stays there. -/
theorem place?_enter_of_place {other : String} (h : roster.place? other = some place) (id : String)
    (texts : Script τ String) : (roster.enter id texts).2.place? other = some place := by
  rw [place?_enter]
  split
  · next same =>
    subst same
    rw [enter_of_place h]
  · exact h

/-- A lookup finds the element that was there, or a new one, and leaves the others alone. -/
theorem element?_enter (roster : Roster τ) (id : String) (texts : Script τ String)
    (other : String) :
    (roster.enter id texts).2.element? other =
      if other = id then some ((roster.element? id).getD { texts }) else roster.element? other := by
  cases h : roster.place? id with
  | some place =>
    rw [enter_of_place h]
    obtain ⟨element, -, hfound⟩ := exists_of_place h
    by_cases same : other = id
    · rw [if_pos same, same, hfound, Option.getD_some]
    · rw [if_neg same]
  | none =>
    rw [enter_of_new h, element?, place?_add h, element?_eq_none h]
    by_cases same : other = id
    · rw [if_pos same, if_pos same]
      simp [add]
    · rw [if_neg same, if_neg same]
      cases hother : roster.place? other with
      | none => rw [element?_eq_none hother, Option.bind_none]
      | some place =>
        rw [← made_of_place hother, Option.bind_some]
        exact List.getElem?_append_left (roster.valid other place hother)

/-- A read counts for the element of the handle, and for no other. -/
theorem element?_advance (h : roster.place? id = some place) (other : String) :
    (roster.advance place).element? other =
      if other = id then (roster.element? id).map Scripted.advance else roster.element? other := by
  have hmade (there : Nat) : (roster.advance place).made[there]? =
      if place = there then roster.made[there]?.map Scripted.advance else roster.made[there]? := by
    rw [show (roster.advance place).made = roster.made.modify place Scripted.advance from rfl,
      List.getElem?_modify]
    split
    · rfl
    · exact Option.map_id'
  by_cases same : other = id
  · rw [if_pos same, same, element?, place?_advance, h, Option.bind_some, hmade, if_pos rfl,
      made_of_place h]
  · rw [if_neg same, element?, place?_advance]
    cases hother : roster.place? other with
    | none => rw [element?_eq_none hother, Option.bind_none]
    | some there =>
      have apart : place ≠ there := by
        rintro rfl
        exact same (roster.distinct other id place hother h)
      rw [Option.bind_some, hmade, if_neg apart, made_of_place hother]

theorem count_enter (roster : Roster τ) (id : String) (texts : Script τ String) (other : String) :
    (roster.enter id texts).2.count other = roster.count other := by
  rw [count, element?_enter, count]
  split
  · next same =>
    rw [same]
    cases roster.element? id <;> rfl
  · rfl

theorem count_advance (h : roster.place? id = some place) (other : String) :
    (roster.advance place).count other =
      if other = id then roster.count id + 1 else roster.count other := by
  rw [count, element?_advance h]
  split
  · obtain ⟨element, -, hfound⟩ := exists_of_place h
    rw [count, hfound]
    rfl
  · rfl

end Roster

end PageTrial
