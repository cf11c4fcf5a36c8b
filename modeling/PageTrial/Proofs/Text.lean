import PageTrial.Text.Cut
import PageTrial.Text.Lowercase

/-!
# Cutting and lowering texts

What the functions that cut a text at a character find in a text that was put together around that
character. `pieces` is the library's `List.splitOn`, so that what is known about joining and
splitting holds of it. Of the lowercase forms, those of ASCII are the ones that the library knows.
-/

set_option autoImplicit false

namespace PageTrial.Text

variable {c : Char} {xs ys : List Char}

/-! ## Cutting -/

theorem before_append (h : c ∉ xs) : before c (xs ++ c :: ys) = xs := by
  rw [before, List.takeWhile_append_of_pos (by intro d hd; simpa using ne_of_mem_of_not_mem hd h)]
  simp

theorem after_append (h : c ∉ xs) : after c (xs ++ c :: ys) = ys := by
  rw [after, List.dropWhile_append_of_pos (by intro d hd; simpa using ne_of_mem_of_not_mem hd h)]
  simp

theorem dropWhile_of_not_mem (h : c ∉ xs) : xs.dropWhile (· ≠ c) = [] := by
  have hpassed : ∀ d ∈ xs, decide (d ≠ c) = true := by
    intro d hd
    simpa using ne_of_mem_of_not_mem hd h
  have hdropped : (xs ++ []).dropWhile (· ≠ c) = [] := List.dropWhile_append_of_pos hpassed
  rwa [List.append_nil] at hdropped

theorem after_of_not_mem (h : c ∉ xs) : after c xs = [] := by
  rw [after, dropWhile_of_not_mem h]
  rfl

theorem afterLast_append (h : c ∉ ys) : afterLast c (xs ++ c :: ys) = ys := by
  have hreversed : (xs ++ c :: ys).reverse = ys.reverse ++ c :: xs.reverse := by simp
  rw [afterLast, hreversed, before_append (by simpa using h), List.reverse_reverse]

theorem afterLast_of_not_mem (h : c ∉ xs) : afterLast c xs = xs := by
  rw [afterLast, before_of_not_mem (by simpa using h), List.reverse_reverse]

theorem pieces_eq_splitOn (c : Char) (cs : List Char) : pieces c cs = cs.splitOn c := by
  induction cs with
  | nil => rfl
  | cons d rest ih =>
    rw [pieces, List.splitOn_cons_eq_if_modifyHead, ih]
    by_cases hsame : d = c
    · rw [if_pos hsame, if_pos (by simpa using hsame)]
    · rw [if_neg hsame, if_neg (by simpa using hsame)]
      cases hparts : rest.splitOn c with
      | nil => exact absurd hparts (List.splitOn_ne_nil c rest)
      | cons piece more => rfl

/-- The pieces of a text that was joined from parts are the parts. -/
theorem pieces_intercalate {parts : List (List Char)} (h : ∀ part ∈ parts, c ∉ part)
    (hparts : parts ≠ []) : pieces c ([c].intercalate parts) = parts := by
  rw [pieces_eq_splitOn, List.splitOn_intercalate c h hparts]

/-- A text is joined from its pieces. -/
theorem intercalate_pieces (c : Char) (cs : List Char) : [c].intercalate (pieces c cs) = cs := by
  rw [pieces_eq_splitOn, List.intercalate_splitOn]

/-- A character of a joined text is that between the parts, or one of a part. -/
theorem mem_intercalate {parts : List (List Char)} {d : Char} (h : d ∈ [c].intercalate parts) :
    d = c ∨ ∃ part ∈ parts, d ∈ part := by
  induction parts with
  | nil => simp at h
  | cons part rest ih =>
    cases rest with
    | nil => exact .inr ⟨part, List.mem_cons_self, by simpa using h⟩
    | cons next more =>
      rw [List.intercalate_cons_cons] at h
      simp only [List.mem_append, List.mem_singleton] at h
      rcases h with (hpart | hsep) | hrest
      · exact .inr ⟨part, List.mem_cons_self, hpart⟩
      · exact .inl hsep
      · rcases ih hrest with hsep | ⟨other, hother, hd⟩
        · exact .inl hsep
        · exact .inr ⟨other, List.mem_cons_of_mem _ hother, hd⟩

theorem intercalate_append {xs ys : List (List Char)} (hxs : xs ≠ []) (hys : ys ≠ []) :
    [c].intercalate (xs ++ ys) = [c].intercalate xs ++ c :: [c].intercalate ys := by
  induction xs with
  | nil => exact absurd rfl hxs
  | cons x rest ih =>
    cases rest with
    | nil => simp [List.intercalate_cons_of_ne_nil hys]
    | cons next more =>
      rw [List.cons_append, List.intercalate_cons_of_ne_nil (by simp), ih (by simp),
        List.intercalate_cons_cons]
      simp

/-! ## Lowering -/

/-- What holds of the ASCII characters one by one. -/
theorem forall_ascii {P : Char → Prop} (hall : ∀ n < 128, P (Char.ofNat n)) (h : c.toNat < 128) :
    P c := by
  have hc := hall c.toNat h
  rwa [Char.ofNat_toNat] at hc

theorem lowerLetter_of_ascii (h : c.toNat < 128) : lowerLetter c = c.toLower :=
  forall_ascii (P := fun c => lowerLetter c = c.toLower) (by decide +kernel) h

theorem lowerAt_of_ascii (h : c.toNat < 128) : lowerAt xs c ys = [c.toLower] := by
  have hdotted : c ≠ '\u0130' := by
    rintro rfl
    exact absurd h (by decide)
  have hsigma : c ≠ 'Σ' := by
    rintro rfl
    exact absurd h (by decide)
  rw [lowerAt, if_neg hdotted, if_neg hsigma, lowerLetter_of_ascii h]

theorem lowerFrom_of_ascii (h : ∀ d ∈ ys, d.toNat < 128) :
    lowerFrom xs ys = ys.map Char.toLower := by
  induction ys generalizing xs with
  | nil => rfl
  | cons d rest ih =>
    rw [lowerFrom, lowerAt_of_ascii (h d List.mem_cons_self),
      ih fun e he => h e (List.mem_cons_of_mem _ he)]
    rfl

theorem lowercase_of_ascii {text : String} (h : ∀ d ∈ text.toList, d.toNat < 128) :
    lowercase text = text.toLower := by
  rw [lowercase, lowerFrom_of_ascii h]
  exact String.map_eq_internal.symm

end PageTrial.Text
