/-!
# Counting by name

How often each of some names has come up, in the order in which they came up first.
-/

set_option autoImplicit false

namespace PageTrial

/-- Names with their counts, in the order in which they came up. -/
structure Tally where
  entries : List (String × Nat) := []
  deriving Repr

namespace Tally

def mentions (tally : Tally) (name : String) : Bool := tally.entries.any (·.1 = name)

def count (tally : Tally) (name : String) : Nat :=
  ((tally.entries.find? (·.1 = name)).map (·.2)).getD 0

/-- A name comes up without being counted. -/
def mention (tally : Tally) (name : String) : Tally :=
  if tally.mentions name then tally else ⟨tally.entries ++ [(name, 0)]⟩

/-- A name that has come up is counted once more. -/
def bump (tally : Tally) (name : String) : Tally :=
  ⟨(tally.mention name).entries.map fun entry =>
    if entry.1 = name then (name, entry.2 + 1) else entry⟩

/-! ## Counts after each operation -/

theorem mentions_cons (entry : String × Nat) (rest : List (String × Nat)) (name : String) :
    mentions ⟨entry :: rest⟩ name = (decide (entry.1 = name) || mentions ⟨rest⟩ name) := by
  simp [mentions]

theorem count_cons (entry : String × Nat) (rest : List (String × Nat)) (name : String) :
    count ⟨entry :: rest⟩ name = if entry.1 = name then entry.2 else count ⟨rest⟩ name := by
  by_cases same : entry.1 = name <;> simp [count, same]

theorem count_of_not_mentions {tally : Tally} {name : String} (h : tally.mentions name = false) :
    tally.count name = 0 := by
  obtain ⟨entries⟩ := tally
  induction entries with
  | nil => rfl
  | cons entry rest ih =>
    rw [mentions_cons, Bool.or_eq_false_iff] at h
    rw [count_cons, if_neg (of_decide_eq_false h.1)]
    exact ih h.2

theorem count_append (front back : List (String × Nat)) (name : String) :
    count ⟨front ++ back⟩ name =
      if mentions ⟨front⟩ name then count ⟨front⟩ name else count ⟨back⟩ name := by
  induction front with
  | nil => rfl
  | cons entry rest ih =>
    rw [List.cons_append, count_cons, mentions_cons, count_cons, ih]
    by_cases same : entry.1 = name <;> simp [same]

/-- Coming up changes no count. -/
@[simp] theorem count_mention (tally : Tally) (name other : String) :
    (tally.mention name).count other = tally.count other := by
  unfold mention
  split
  · rfl
  · rw [count_append]
    split
    · rfl
    · rename_i absent
      rw [count_of_not_mentions (Bool.eq_false_iff.mpr absent), count_cons]
      split <;> rfl

theorem mentions_mention (tally : Tally) (name : String) :
    (tally.mention name).mentions name = true := by
  unfold mention
  split
  · assumption
  · simp [mentions]

theorem count_map_succ (entries : List (String × Nat)) (name other : String) :
    count ⟨entries.map fun entry =>
      if entry.1 = name then (name, entry.2 + 1) else entry⟩ other =
      if other = name ∧ mentions ⟨entries⟩ name = true then count ⟨entries⟩ other + 1
      else count ⟨entries⟩ other := by
  induction entries with
  | nil => simp [mentions]
  | cons entry rest ih =>
    rw [List.map_cons, count_cons, ih, count_cons, mentions_cons]
    by_cases same : entry.1 = name
    · subst same
      by_cases here : other = entry.1
      · simp [here]
      · simp [here, Ne.symm here]
    · by_cases here : other = name
      · subst here
        simp [same]
      · simp [same, here]

/-- Counting a name adds one to its count and changes no other. -/
theorem count_bump (tally : Tally) (name other : String) :
    (tally.bump name).count other =
      if other = name then tally.count other + 1 else tally.count other := by
  unfold bump
  have whole : (⟨(tally.mention name).entries⟩ : Tally) = tally.mention name := rfl
  rw [count_map_succ, whole, mentions_mention, count_mention]
  simp

end Tally

end PageTrial
