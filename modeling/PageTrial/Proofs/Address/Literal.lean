import PageTrial.Address.Literal
import PageTrial.Proofs.Text

/-!
# How an address of version six is spelled

`Version6` is the grammar: eight groups between colons, or fewer with one gap of two colons, where
the last two groups may be written as an address of version four. `isVersion6` never looks at it in
this way. It cuts the text at its colons, so that a gap shows as an empty piece, and as two of them
where it stands at an end; `areGroups` then counts from both ends. `isVersion6_iff` says that it
recognises the grammar and nothing else.
-/

set_option autoImplicit false

namespace PageTrial.Address

open Text

/-! ## The grammar -/

/-- A row of groups, the last two of which may be written as an address of version four. -/
structure Row where
  groups : List (List Char)
  quad : Option (List Char) := none
  groups_valid : ∀ group ∈ groups, isGroup group = true
  quad_valid : ∀ octets ∈ quad, isVersion4 octets = true

namespace Row

/-- What stands between the colons of a row. -/
def parts (row : Row) : List (List Char) := row.groups ++ row.quad.toList

/-- The groups of a row, with two of them in place of an address of version four. -/
def expanded (row : Row) : List (List Char) :=
  row.groups ++ if row.quad.isSome then [['0'], ['0']] else []

/-- How many groups a row stands for. -/
def size (row : Row) : Nat := row.groups.length + if row.quad.isSome then 2 else 0

def text (row : Row) : List Char := [':'].intercalate row.parts

end Row

/-- The addresses of version six, without a zone. -/
inductive Version6 : List Char → Prop
  | full (row : Row) : row.size = 8 → Version6 row.text
  /-- Two colons stand for one or more groups. -/
  | gap (high : List (List Char)) (low : Row) : (∀ group ∈ high, isGroup group = true) →
    high.length + low.size < 8 → Version6 ([':'].intercalate high ++ ':' :: ':' :: low.text)

/-! ## The characters -/

section

variable {cs group : List Char} {c : Char}

theorem isHexDigit_of_isDigit (h : c.isDigit = true) : isHexDigit c = true := by
  simp [isHexDigit, h]

theorem isHexDigit_of_mem (h : isGroup group = true) (hc : c ∈ group) : isHexDigit c = true := by
  simp only [isGroup, Bool.and_eq_true, List.all_eq_true] at h
  exact h.2 c hc

theorem isGroup_ne_nil (h : isGroup group = true) : group ≠ [] := by
  rintro rfl
  cases h

theorem not_mem_of_isGroup (h : isGroup group = true) (hc : isHexDigit c = false) :
    c ∉ group := by
  intro hmem
  rw [isHexDigit_of_mem h hmem] at hc
  cases hc

theorem isDigit_of_isOctet {octet : List Char} (h : isOctet octet = true) (hc : c ∈ octet) :
    c.isDigit = true := by
  simp only [isOctet, Bool.and_eq_true, List.all_eq_true] at h
  exact h.1.1.1.2 c hc

/-- An address of version four is made of digits and points. -/
theorem isVersion4_chars (h : isVersion4 cs = true) (hc : c ∈ cs) :
    c.isDigit = true ∨ c = '.' := by
  simp only [isVersion4, Bool.and_eq_true, List.all_eq_true] at h
  rw [← intercalate_pieces '.' cs] at hc
  rcases mem_intercalate hc with hpoint | ⟨octet, hoctet, hc⟩
  · exact .inr hpoint
  · exact .inl (isDigit_of_isOctet (h.2 octet hoctet) hc)

theorem isVersion4_point (h : isVersion4 cs = true) : '.' ∈ cs := by
  refine Decidable.byContradiction fun hpoint => ?_
  rw [isVersion4, pieces_eq_splitOn, List.splitOn_eq_singleton hpoint] at h
  cases h

/-- What may stand in an address of version six. -/
def isVersion6Char (c : Char) : Bool := isHexDigit c || c = ':' || c = '.'

theorem Row.part_chars {row : Row} {part : List Char} (h : part ∈ row.parts) (hc : c ∈ part) :
    isHexDigit c = true ∨ c = '.' := by
  rcases List.mem_append.mp h with hgroup | hquad
  · exact .inl (isHexDigit_of_mem (row.groups_valid part hgroup) hc)
  · rcases isVersion4_chars (row.quad_valid part (by simpa using hquad)) hc with hdigit | hpoint
    · exact .inl (isHexDigit_of_isDigit hdigit)
    · exact .inr hpoint

theorem Row.chars {row : Row} (hc : c ∈ row.text) : isVersion6Char c = true := by
  rcases mem_intercalate hc with rfl | ⟨part, hpart, hc⟩
  · rfl
  · rcases row.part_chars hpart hc with hdigit | rfl
    · simp [isVersion6Char, hdigit]
    · rfl

theorem Version6.chars (h : Version6 cs) (hc : c ∈ cs) : isVersion6Char c = true := by
  cases h with
  | full row => exact row.chars hc
  | gap high low hhigh =>
    simp only [List.mem_append, List.mem_cons] at hc
    rcases hc with hc | rfl | rfl | hc
    · rcases mem_intercalate hc with rfl | ⟨group, hgroup, hc⟩
      · rfl
      · simp [isVersion6Char, isHexDigit_of_mem (hhigh group hgroup) hc]
    · rfl
    · rfl
    · exact low.chars hc

theorem Version6.not_mem (h : Version6 cs) (hc : isVersion6Char c = false) : c ∉ cs := by
  intro hmem
  rw [h.chars hmem] at hc
  cases hc

end

theorem Row.not_mem_colon {row : Row} {part : List Char} (h : part ∈ row.parts) : ':' ∉ part := by
  intro hc
  rcases row.part_chars h hc with hdigit | hpoint
  · cases hdigit
  · cases hpoint

theorem Row.isGroup_expanded {row : Row} {group : List Char} (h : group ∈ row.expanded) :
    isGroup group = true := by
  rcases List.mem_append.mp h with hgroup | hzero
  · exact row.groups_valid group hgroup
  · split at hzero
    · obtain rfl : group = ['0'] := by simpa using hzero
      rfl
    · cases hzero

theorem Row.length_expanded (row : Row) : row.expanded.length = row.size := by
  rw [Row.expanded, Row.size, List.length_append]
  split <;> rfl

theorem Row.size_le (row : Row) : row.size ≤ row.parts.length + 1 := by
  rw [Row.size, Row.parts, List.length_append]
  cases row.quad with
  | none => simp
  | some octets => simp

/-! ## Groups and gaps -/

/-- The pieces that parts leave on one side of a gap: an empty one if there are no parts. -/
def spread (parts : List (List Char)) : List (List Char) :=
  if parts.isEmpty then [[]] else parts

@[simp] theorem spread_nil : spread [] = [[]] := rfl

@[simp] theorem spread_cons (part : List Char) (rest : List (List Char)) :
    spread (part :: rest) = part :: rest := rfl

theorem spread_ne_nil (parts : List (List Char)) : spread parts ≠ [] := by
  cases parts <;> simp

theorem spread_of_ne_nil {parts : List (List Char)} (h : parts ≠ []) : spread parts = parts := by
  cases parts with
  | nil => exact absurd rfl h
  | cons part rest => rfl

theorem length_spread (parts : List (List Char)) :
    (spread parts).length = max 1 parts.length := by
  cases parts with
  | nil => rfl
  | cons part rest =>
    rw [spread_cons, List.length_cons]
    omega

theorem mem_spread {parts : List (List Char)} {part : List Char} (h : part ∈ spread parts) :
    part = [] ∨ part ∈ parts := by
  cases parts with
  | nil => exact .inl (by simpa using h)
  | cons first rest => exact .inr h

theorem intercalate_spread (c : Char) (parts : List (List Char)) :
    [c].intercalate (spread parts) = [c].intercalate parts := by
  cases parts <;> rfl

/-- A gap between two rows of parts is an empty part between them. -/
theorem intercalate_gap (high low : List (List Char)) :
    [':'].intercalate (spread high ++ [] :: spread low) =
      [':'].intercalate high ++ ':' :: ':' :: [':'].intercalate low := by
  rw [intercalate_append (spread_ne_nil high) (by simp), intercalate_spread,
    List.intercalate_cons_of_ne_nil (spread_ne_nil low), intercalate_spread]
  rfl

/-- Only the piece at the very beginning can be empty, and then it stands for nothing. -/
theorem spread_eq_cons_iff {high left : List (List Char)} {first : List Char}
    (hhigh : ∀ group ∈ high, isGroup group = true) :
    spread high = first :: left ↔
      (first = [] → left = []) ∧ high = if first = [] then [] else first :: left := by
  cases high with
  | nil =>
    by_cases hfirst : first = []
    · simp [hfirst, eq_comm]
    · simp [hfirst, Ne.symm hfirst]
  | cons group rest =>
    have hgroup : group ≠ [] := isGroup_ne_nil (hhigh group List.mem_cons_self)
    by_cases hfirst : first = []
    · simp [hfirst, hgroup]
    · simp [hfirst]

theorem spread_eq_concat_iff {low right : List (List Char)} {last : List Char}
    (hlow : ∀ group ∈ low, isGroup group = true) :
    spread low = right ++ [last] ↔
      (last = [] → right = []) ∧ low = if last = [] then [] else right ++ [last] := by
  rcases List.eq_nil_or_concat low with rfl | ⟨rest, group, rfl⟩
  · by_cases hlast : last = []
    · simp [hlast]
    · have hdiffer : ¬[[]] = right ++ [last] := by
        intro hsame
        have hlast' := congrArg List.getLast? hsame
        rw [List.getLast?_concat] at hlast'
        exact hlast (Option.some.inj hlast').symm
      simp [hlast, hdiffer]
  · have hgroup : group ≠ [] := isGroup_ne_nil (hlow group (by simp))
    have hspread : spread (rest.concat group) = rest ++ [group] := by
      cases rest <;> simp
    rw [hspread]
    by_cases hlast : last = []
    · simp [hlast, hgroup]
    · simp [hlast]

theorem ne_nil_of_spread_cons {high left : List (List Char)} {first : List Char}
    (hhigh : ∀ group ∈ high, isGroup group = true) (h : spread high = first :: left) :
    ∀ group ∈ left, group ≠ [] := by
  obtain ⟨hopens, hsame⟩ := (spread_eq_cons_iff hhigh).mp h
  intro group hgroup
  by_cases hfirst : first = []
  · rw [hopens hfirst] at hgroup
    cases hgroup
  · rw [if_neg hfirst] at hsame
    exact isGroup_ne_nil (hhigh group (hsame ▸ List.mem_cons_of_mem _ hgroup))

theorem ne_nil_of_spread_concat {low right : List (List Char)} {last : List Char}
    (hlow : ∀ group ∈ low, isGroup group = true) (h : spread low = right ++ [last]) :
    ∀ group ∈ right, group ≠ [] := by
  obtain ⟨hcloses, hsame⟩ := (spread_eq_concat_iff hlow).mp h
  intro group hgroup
  by_cases hlast : last = []
  · rw [hcloses hlast] at hgroup
    cases hgroup
  · rw [if_neg hlast] at hsame
    exact isGroup_ne_nil (hlow group (hsame ▸ List.mem_append_left _ hgroup))

/-- The groups before a gap, counted from the first one on. -/
theorem takeWhile_cut {first : List Char} {left rest : List (List Char)}
    (hleft : ∀ group ∈ left, group ≠ []) :
    (first :: left ++ [] :: rest).takeWhile (!·.isEmpty) =
      if first = [] then [] else first :: left := by
  by_cases hfirst : first = []
  · simp [hfirst]
  · rw [if_neg hfirst, List.takeWhile_append_of_pos]
    · simp
    · intro group hgroup
      rcases List.mem_cons.mp hgroup with rfl | hgroup
      · simpa using hfirst
      · simpa using hleft group hgroup

/-- The groups after a gap, counted from the last one on. -/
theorem takeWhile_reverse_cut {last : List Char} {right rest : List (List Char)}
    (hright : ∀ group ∈ right, group ≠ []) :
    ((rest ++ [] :: (right ++ [last])).reverse.takeWhile (!·.isEmpty)).reverse =
      if last = [] then [] else right ++ [last] := by
  have hreversed : (rest ++ [] :: (right ++ [last])).reverse =
      last :: right.reverse ++ [] :: rest.reverse := by simp
  rw [hreversed, takeWhile_cut (by simpa using hright)]
  split <;> simp

theorem findIdx_cut {left rest : List (List Char)} (hleft : ∀ group ∈ left, group ≠ []) :
    (left ++ [] :: rest).findIdx List.isEmpty = left.length := by
  induction left with
  | nil => rfl
  | cons group more ih =>
    have hgroup : group.isEmpty = false := by simpa using hleft group List.mem_cons_self
    rw [List.cons_append, List.findIdx_cons, hgroup,
      ih fun other hother => hleft other (List.mem_cons_of_mem _ hother)]
    rfl

theorem filter_cut {left right : List (List Char)} (hleft : ∀ group ∈ left, group ≠ [])
    (hright : ∀ group ∈ right, group ≠ []) :
    (left ++ [] :: right).filter List.isEmpty = [[]] := by
  have none {groups : List (List Char)} (h : ∀ group ∈ groups, group ≠ []) :
      groups.filter List.isEmpty = [] := by simpa using h
  rw [List.filter_append, none hleft, List.filter_cons_of_pos rfl, none hright]
  rfl

/-- `areGroups` of groups that are cut at an empty one which is not at an end. Only the groups at
the ends, `first` and `last`, can be empty besides. -/
theorem areGroups_cut {first last : List Char} {left right : List (List Char)}
    (hleft : ∀ group ∈ left, group ≠ []) (hright : ∀ group ∈ right, group ≠ []) :
    areGroups (first :: left ++ [] :: (right ++ [last])) = true ↔
      ∃ high low, spread high = first :: left ∧ spread low = right ++ [last] ∧
        (∀ group ∈ high, isGroup group = true) ∧ (∀ group ∈ low, isGroup group = true) ∧
          high.length + low.length < 8 := by
  have hends : first :: left ++ [] :: (right ++ [last]) =
      (first :: left ++ [] :: right) ++ [last] := by simp
  have hinner : ((first :: left ++ [] :: (right ++ [last])).drop 1).dropLast =
      left ++ [] :: right := by
    rw [hends]
    exact List.dropLast_concat
  have hgap : ((first :: left ++ [] :: (right ++ [last])).drop 1).findIdx List.isEmpty =
      left.length := findIdx_cut hleft
  have hlast : (first :: left ++ [] :: (right ++ [last])).getLast? = some last := by
    rw [hends, List.getLast?_concat]
  have hlength : (first :: left ++ [] :: (right ++ [last])).length =
      left.length + right.length + 3 := by
    simp
    omega
  simp only [areGroups, hinner, filter_cut hleft hright, takeWhile_cut hleft,
    takeWhile_reverse_cut hright, hgap, hlast, hlength]
  simp only [List.cons_append, List.head?_cons, Option.some.injEq, Bool.and_eq_true,
    Bool.or_eq_true, Bool.not_eq_true', decide_eq_false_iff_not, decide_eq_true_eq,
    List.all_eq_true]
  constructor
  · rintro ⟨⟨⟨⟨hopens, hcloses⟩, hhigh⟩, hlow⟩, hcount⟩
    refine ⟨_, _, (spread_eq_cons_iff hhigh).mpr ⟨fun hfirst => ?_, rfl⟩,
      (spread_eq_concat_iff hlow).mpr ⟨fun hend => ?_, rfl⟩, hhigh, hlow, hcount⟩
    · have hshort := hopens.resolve_left (not_not_intro hfirst)
      exact List.length_eq_zero_iff.mp (by omega)
    · have hshort := hcloses.resolve_left (not_not_intro hend)
      exact List.length_eq_zero_iff.mp (by omega)
  · rintro ⟨high, low, hspread, hspread', hhigh, hlow, hcount⟩
    obtain ⟨hopens, rfl⟩ := (spread_eq_cons_iff hhigh).mp hspread
    obtain ⟨hcloses, rfl⟩ := (spread_eq_concat_iff hlow).mp hspread'
    refine ⟨⟨⟨⟨?_, ?_⟩, hhigh⟩, hlow⟩, hcount⟩
    · by_cases hfirst : first = []
      · right
        simp [hopens hfirst]
      · exact .inl hfirst
    · by_cases hend : last = []
      · right
        simp [hcloses hend]
      · exact .inl hend

/-- A single empty group short of both ends cuts the groups in two. -/
theorem exists_cut {groups : List (List Char)} {gap : List Char}
    (h : ((groups.drop 1).dropLast).filter List.isEmpty = [gap]) :
    ∃ first left right last, groups = first :: left ++ [] :: (right ++ [last]) ∧
      (∀ group ∈ left, group ≠ []) ∧ ∀ group ∈ right, group ≠ [] := by
  obtain ⟨left, right, hinner, hleft, hgap, hright⟩ := List.filter_eq_cons_iff.mp h
  obtain rfl : gap = [] := List.isEmpty_iff.mp hgap
  cases groups with
  | nil => simp at hinner
  | cons first rest =>
    rcases List.eq_nil_or_concat rest with rfl | ⟨front, last, rfl⟩
    · simp at hinner
    · have hfront : front = left ++ [] :: right := by simpa using hinner
      refine ⟨first, left, right, last, by simp [hfront], ?_, ?_⟩
      · simpa using hleft
      · simpa using hright

/-- Groups are those of an address if there are eight of them, or if they are those of two rows
around a gap. -/
theorem areGroups_iff {groups : List (List Char)} :
    areGroups groups = true ↔
      (groups.length = 8 ∧ ∀ group ∈ groups, isGroup group = true) ∨
      ∃ high low, groups = spread high ++ [] :: spread low ∧
        (∀ group ∈ high, isGroup group = true) ∧ (∀ group ∈ low, isGroup group = true) ∧
          high.length + low.length < 8 := by
  constructor
  · intro h
    cases hfilter : ((groups.drop 1).dropLast).filter List.isEmpty with
    | nil =>
      simp only [areGroups, hfilter] at h
      exact .inl (by simpa using h)
    | cons gap more =>
      cases more with
      | nil =>
        obtain ⟨first, left, right, last, rfl, hleft, hright⟩ := exists_cut hfilter
        obtain ⟨high, low, hhigh, hlow, hgroups⟩ := (areGroups_cut hleft hright).mp h
        exact .inr ⟨high, low, by rw [hhigh, hlow], hgroups⟩
      | cons other rest =>
        simp only [areGroups, hfilter] at h
        cases h
  · rintro (⟨hcount, hgroups⟩ | ⟨high, low, rfl, hhigh, hlow, hcount⟩)
    · have hfilter : ((groups.drop 1).dropLast).filter List.isEmpty = [] := by
        refine List.filter_eq_nil_iff.mpr fun group hmem => ?_
        have hgroup := hgroups group (List.mem_of_mem_drop ((List.dropLast_sublist _).subset hmem))
        simpa using isGroup_ne_nil hgroup
      simp only [areGroups, hfilter]
      simpa using And.intro hcount hgroups
    · obtain ⟨first, left, hleft⟩ := List.exists_cons_of_ne_nil (spread_ne_nil high)
      obtain ⟨right, last, hright⟩ :=
        (List.eq_nil_or_concat (spread low)).resolve_left (spread_ne_nil low)
      rw [List.concat_eq_append] at hright
      rw [hleft, hright]
      refine (areGroups_cut ?_ ?_).mpr ⟨high, low, hleft, hright, hhigh, hlow, hcount⟩
      · exact ne_nil_of_spread_cons hhigh hleft
      · exact ne_nil_of_spread_concat hlow hright

/-! ## The checker -/

section

variable {cs last : List Char} {front : List (List Char)}

theorem groups?_of_pieces (h : pieces ':' cs = front ++ [last]) :
    groups? cs =
      if '.' ∈ last then
        if isVersion4 last = true then some (front ++ [['0'], ['0']]) else none
      else some (front ++ [last]) := by
  simp [groups?, h]

/-- The groups of a text whose last pieces are the parts of a row. -/
theorem groups?_of_row (front : List (List Char)) (row : Row)
    (h : pieces ':' cs = front ++ spread row.parts) :
    groups? cs = some (front ++ spread row.expanded) := by
  cases hquad : row.quad with
  | some octets =>
    have hvalid : isVersion4 octets = true := row.quad_valid octets hquad
    have hparts : row.parts = row.groups ++ [octets] := by simp [Row.parts, hquad]
    have hexpanded : row.expanded = row.groups ++ [['0'], ['0']] := by simp [Row.expanded, hquad]
    rw [hparts, spread_of_ne_nil (by simp), ← List.append_assoc] at h
    rw [groups?_of_pieces h, if_pos (isVersion4_point hvalid), if_pos hvalid, hexpanded,
      spread_of_ne_nil (by simp), List.append_assoc]
  | none =>
    have hparts : row.parts = row.groups := by simp [Row.parts, hquad]
    have hexpanded : row.expanded = row.groups := by simp [Row.expanded, hquad]
    rw [hparts] at h
    rw [hexpanded]
    rcases List.eq_nil_or_concat row.groups with hnone | ⟨groups, group, hgroups⟩
    · rw [hnone] at h ⊢
      rw [groups?_of_pieces h, if_neg (by simp)]
      rfl
    · have hgroup : isGroup group = true := row.groups_valid group (by simp [hgroups])
      rw [hgroups, List.concat_eq_append, spread_of_ne_nil (by simp)] at h ⊢
      rw [← List.append_assoc] at h ⊢
      rw [groups?_of_pieces h, if_neg (not_mem_of_isGroup hgroup (by decide))]

/-- Groups at the end of a text come from the parts of a row, provided that the two groups in
place of an address of version four are both among them. -/
theorem exists_row (front low : List (List Char)) (h : groups? cs = some (front ++ spread low))
    (hlow : ∀ group ∈ low, isGroup group = true) (hfront : front.getLast? ≠ some ['0']) :
    ∃ row : Row, pieces ':' cs = front ++ spread row.parts ∧ row.size = low.length := by
  obtain ⟨before, last, hpieces⟩ :=
    (List.eq_nil_or_concat (pieces ':' cs)).resolve_left (pieces_ne_nil ':' cs)
  rw [List.concat_eq_append] at hpieces
  rw [groups?_of_pieces hpieces] at h
  split at h
  · split at h
    · next hvalid =>
      have hsame : (before ++ [['0']]) ++ [['0']] = front ++ spread low := by
        rw [← Option.some.inj h]
        simp
      rcases List.eq_nil_or_concat low with rfl | ⟨shorter, group, rfl⟩
      · have hempty := (List.append_inj' hsame rfl).2
        cases hempty
      · rw [List.concat_eq_append, spread_of_ne_nil (by simp), ← List.append_assoc] at hsame
        have hbefore := (List.append_inj' hsame rfl).1
        rcases List.eq_nil_or_concat shorter with rfl | ⟨rest, other, rfl⟩
        · rw [List.append_nil] at hbefore
          exact absurd (hbefore ▸ List.getLast?_concat) hfront
        · rw [List.concat_eq_append, ← List.append_assoc] at hbefore
          refine ⟨⟨rest, some last, fun part hpart => hlow part (by simp [hpart]),
            by simpa using hvalid⟩, ?_, ?_⟩
          · rw [hpieces, (List.append_inj' hbefore rfl).1, List.append_assoc]
            exact congrArg (front ++ ·) (spread_of_ne_nil (by simp)).symm
          · simp [Row.size]
    · cases h
  · rw [hpieces, Option.some.inj h]
    refine ⟨⟨low, none, hlow, by simp⟩, ?_, ?_⟩
    · simp [Row.parts]
    · simp [Row.size]

theorem isVersion6_unzoned (hzone : '%' ∉ cs) :
    isVersion6 cs = true ↔ '/' ∉ cs ∧ 3 ≤ (pieces ':' cs).length ∧
      ∃ groups, groups? cs = some groups ∧ groups.length ≤ 9 ∧ areGroups groups = true := by
  have hzoned : cs.contains '%' = false := by simpa using hzone
  rw [isVersion6, before_of_not_mem hzone, hzoned]
  cases hgroups : groups? cs with
  | none => simp
  | some groups => simp [and_assoc]

end

/-- Eight groups are recognised. -/
theorem Row.recognised {row : Row} (hsize : row.size = 8) :
    3 ≤ (pieces ':' row.text).length ∧
      ∃ groups, groups? row.text = some groups ∧ groups.length ≤ 9 ∧ areGroups groups = true := by
  have hcount := row.size_le
  have hexpanded := row.length_expanded
  have hparts : row.parts ≠ [] := List.ne_nil_of_length_pos (by omega)
  have hpieces : pieces ':' row.text = row.parts :=
    pieces_intercalate (fun part => row.not_mem_colon) hparts
  have hgroups : groups? row.text = some row.expanded := by
    rw [groups?_of_row [] row (by rw [hpieces, spread_of_ne_nil hparts]; rfl),
      spread_of_ne_nil (List.ne_nil_of_length_pos (by omega))]
    rfl
  refine ⟨by rw [hpieces]; omega, row.expanded, hgroups, by omega, ?_⟩
  exact areGroups_iff.mpr (.inl ⟨by omega, fun group => row.isGroup_expanded⟩)

/-- Two rows around a gap are recognised. -/
theorem gap_recognised {high : List (List Char)} {low : Row}
    (hhigh : ∀ group ∈ high, isGroup group = true) (hcount : high.length + low.size < 8) :
    3 ≤ (pieces ':' ([':'].intercalate high ++ ':' :: ':' :: low.text)).length ∧
      ∃ groups, groups? ([':'].intercalate high ++ ':' :: ':' :: low.text) = some groups ∧
        groups.length ≤ 9 ∧ areGroups groups = true := by
  have hexpanded := low.length_expanded
  have hpieces : pieces ':' ([':'].intercalate high ++ ':' :: ':' :: low.text) =
      spread high ++ [[]] ++ spread low.parts := by
    rw [Row.text, ← intercalate_gap, List.append_assoc]
    refine pieces_intercalate (fun part hpart => ?_) (by simp)
    rcases List.mem_append.mp hpart with hpart | hpart
    · rcases mem_spread hpart with rfl | hgroup
      · simp
      · exact not_mem_of_isGroup (hhigh part hgroup) rfl
    · rcases List.mem_cons.mp hpart with rfl | hpart
      · simp
      · rcases mem_spread hpart with rfl | hpart
        · simp
        · exact low.not_mem_colon hpart
  have hgroups := groups?_of_row _ low hpieces
  rw [List.append_assoc] at hgroups
  have hhigh' := length_spread high
  have hlow' := length_spread low.expanded
  refine ⟨?_, _, hgroups, ?_, ?_⟩
  · have hparts := length_spread low.parts
    rw [hpieces]
    simp only [List.length_append, List.length_cons, List.length_nil]
    omega
  · simp only [List.length_append, List.length_cons, List.length_nil]
    omega
  · refine areGroups_iff.mpr (.inr ⟨high, low.expanded, rfl, hhigh, ?_, by omega⟩)
    exact fun group => low.isGroup_expanded

/-- What is recognised is spelled as the grammar says: the pieces around the gap, if there is one,
are joined again. -/
theorem Version6.of_groups {cs : List Char} {groups : List (List Char)}
    (hgroups : groups? cs = some groups) (hshape : areGroups groups = true) : Version6 cs := by
  rcases areGroups_iff.mp hshape with ⟨hcount, hvalid⟩ | ⟨high, low, rfl, hhigh, hlow, hcount⟩
  · have hsome : groups ≠ [] := by
      rintro rfl
      cases hcount
    obtain ⟨row, hpieces, hsize⟩ :=
      exists_row [] groups (by rw [hgroups, spread_of_ne_nil hsome]; rfl) hvalid (by simp)
    have htext : cs = row.text := by
      rw [← intercalate_pieces ':' cs, hpieces]
      exact intercalate_spread ':' row.parts
    rw [htext]
    exact .full row (hsize.trans hcount)
  · obtain ⟨row, hpieces, hsize⟩ := exists_row (spread high ++ [[]]) low
      (by rw [hgroups, List.append_assoc]; rfl) hlow (by simp)
    have htext : cs = [':'].intercalate high ++ ':' :: ':' :: row.text := by
      rw [← intercalate_pieces ':' cs, hpieces, List.append_assoc]
      exact intercalate_gap high row.parts
    rw [htext]
    exact .gap high row hhigh (by omega)

/-- The checker recognises the grammar, and nothing else. -/
theorem isVersion6_iff {cs : List Char} : isVersion6 cs = true ∧ '%' ∉ cs ↔ Version6 cs := by
  constructor
  · rintro ⟨h, hzone⟩
    obtain ⟨-, -, groups, hgroups, -, hshape⟩ := (isVersion6_unzoned hzone).mp h
    exact .of_groups hgroups hshape
  · intro h
    refine ⟨(isVersion6_unzoned (h.not_mem rfl)).mpr ⟨h.not_mem rfl, ?_⟩, h.not_mem rfl⟩
    cases h with
    | full row hsize => exact row.recognised hsize
    | gap high low hhigh hcount => exact gap_recognised hhigh hcount

theorem Version6.mem_colon {cs : List Char} (h : Version6 cs) : ':' ∈ cs := by
  refine Decidable.byContradiction fun hcolon => ?_
  obtain ⟨hchecked, hzone⟩ := isVersion6_iff.mpr h
  obtain ⟨-, hpieces, -⟩ := (isVersion6_unzoned hzone).mp hchecked
  rw [pieces_eq_splitOn, List.splitOn_eq_singleton hcolon] at hpieces
  simp at hpieces

end PageTrial.Address
