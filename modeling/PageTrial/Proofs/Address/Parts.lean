import Mathlib
import PageTrial.Address
import PageTrial.Proofs.Address.Literal

/-!
# The parts of an address

`Parts` are what an address of a page is composed of, and `Parts.text` composes it. The delimiters
of an address may occur in the parts, so the lemmas below say which characters can occur in which of
them: an at sign in the user information, but not in the host or the port; a colon in the user
information and between brackets; neither slash, question mark nor number sign before the tail.
-/

set_option autoImplicit false

namespace PageTrial.Address

open Text

/-! ## The parts of an address -/

/-- A name, or an address of version six between brackets. -/
inductive Host where
  | name (text : String)
  | literal (text : String)

/-- A host without brackets. -/
def Host.bare : Host → String
  | .name text => text
  | .literal text => text

def Host.text : Host → String
  | .name text => text
  | .literal text => "[" ++ text ++ "]"

def isNameChar (c : Char) : Bool := c.isAlphanum || c = '-' || c = '.' || c = '_'

inductive Host.Valid : Host → Prop
  | name {text : String} : text ≠ "" → (∀ c ∈ text.toList, isNameChar c = true) →
    Valid (.name text)
  | literal {text : String} : Version6 text.toList → Valid (.literal text)

/-- What may stand in user information: a visible character or a blank, at signs and colons
included, but none that delimits an authority or a host between brackets. -/
def isUserChar (c : Char) : Bool :=
  0x20 ≤ c.toNat && c.toNat < 0x7f && c ∉ ['/', '?', '#', '[', ']']

/-- The parts that an address is composed of. -/
structure Parts where
  scheme : String
  user : Option String := none
  host : Host
  port : Option String := none
  tail : String := ""
  scheme_valid : scheme.toLower = "http"
  user_valid : ∀ text ∈ user, ∀ c ∈ text.toList, isUserChar c = true
  host_valid : host.Valid
  port_valid : ∀ digits ∈ port, digits.length ≤ 4300 ∧ ∀ c ∈ digits.toList, c.isDigit = true
  tail_valid : ∀ c ∈ tail.toList.head?, c = '/' ∨ c = '?' ∨ c = '#'

/-- What follows a host: nothing, or a colon and a port. -/
def ofPort (port : Option (List Char)) : List Char := port.elim [] (':' :: ·)

namespace Parts

variable (parts : Parts)

/-- The address that is composed of the parts. -/
def text : String :=
  parts.scheme ++ "://" ++ (parts.user.map (· ++ "@")).getD "" ++ parts.host.text ++
    (parts.port.map (":" ++ ·)).getD "" ++ parts.tail

/-- The digits of the port, of which there are none if there is no port. -/
def digits : List Char := (parts.port.map String.toList).getD []

/-- The number that the port is written as. -/
def number : Nat := Nat.ofDigits 10 (parts.digits.reverse.map fun c => c.toNat - '0'.toNat)

/-- What comes before the host. -/
def userText : List Char := parts.user.elim [] fun text => text.toList ++ ['@']

/-- The host with its port. -/
def spot : List Char := parts.host.text.toList ++ ofPort (parts.port.map String.toList)

/-- The authority. -/
def place : List Char := parts.userText ++ parts.spot

theorem toList_text :
    parts.text.toList =
      parts.scheme.toList ++ ':' :: '/' :: '/' :: (parts.place ++ parts.tail.toList) := by
  have huser : ((parts.user.map (· ++ "@")).getD "").toList = parts.userText := by
    rw [userText]
    cases parts.user <;> simp
  have hport : ((parts.port.map (":" ++ ·)).getD "").toList =
      ofPort (parts.port.map String.toList) := by
    cases parts.port <;> simp [ofPort]
  simp [text, place, spot, huser, hport]

end Parts

/-! ## The characters -/

section

variable {c : Char}

theorem ascii_of_isAlphanum (h : c.isAlphanum = true) : c.toNat < 128 := by
  have below (last : Char) (hlast : c ≤ last) (hascii : last.toNat < 128) : c.toNat < 128 :=
    Nat.lt_of_le_of_lt hlast hascii
  simp only [Char.isAlphanum, Char.isAlpha, Char.isUpper, Char.isLower, Char.isDigit,
    Bool.or_eq_true, Bool.and_eq_true, decide_eq_true_eq] at h
  rcases h with (⟨-, hupper⟩ | ⟨-, hlower⟩) | ⟨-, hdigit⟩
  · exact below 'Z' hupper (by decide)
  · exact below 'z' hlower (by decide)
  · exact below '9' hdigit (by decide)

theorem isAlphanum_of_isHexDigit (h : isHexDigit c = true) : c.isAlphanum = true := by
  simp only [isHexDigit, Bool.or_eq_true, Bool.and_eq_true, decide_eq_true_eq] at h
  simp only [Char.isAlphanum, Char.isAlpha, Char.isUpper, Char.isLower, Bool.or_eq_true,
    Bool.and_eq_true, decide_eq_true_eq]
  rcases h with (hdigit | ⟨hfirst, hlast⟩) | ⟨hfirst, hlast⟩
  · exact .inr hdigit
  · exact .inl (.inr ⟨hfirst, Char.le_trans hlast (by decide)⟩)
  · exact .inl (.inl ⟨hfirst, Char.le_trans hlast (by decide)⟩)

/-- What a host consists of, with the colons and points of an address of version six. -/
def isHostChar (c : Char) : Bool := isNameChar c || c = ':'

theorem ascii_of_isHostChar (h : isHostChar c = true) : c.toNat < 128 := by
  simp only [isHostChar, isNameChar, Bool.or_eq_true, decide_eq_true_eq] at h
  rcases h with (((hletter | rfl) | rfl) | rfl) | rfl
  · exact ascii_of_isAlphanum hletter
  all_goals decide

/-- A character of a host could stand in user information as well, but is never an at sign. -/
theorem isUserChar_of_isHostChar (h : isHostChar c = true) : isUserChar c = true ∧ c ≠ '@' :=
  forall_ascii (P := fun c => isHostChar c = true → isUserChar c = true ∧ c ≠ '@')
    (by decide +kernel) (ascii_of_isHostChar h) h

theorem isHostChar_of_isNameChar (h : isNameChar c = true) : isHostChar c = true := by
  simp [isHostChar, h]

theorem isNameChar_of_isDigit (h : c.isDigit = true) : isNameChar c = true := by
  simp [isNameChar, Char.isAlphanum, h]

theorem isHostChar_of_isVersion6Char (h : isVersion6Char c = true) : isHostChar c = true := by
  simp only [isVersion6Char, Bool.or_eq_true, decide_eq_true_eq] at h
  rcases h with (hdigit | rfl) | rfl
  · simp [isHostChar, isNameChar, isAlphanum_of_isHexDigit hdigit]
  · rfl
  · rfl

/-- A letter is neither a blank nor a control character. -/
theorem plain_of_isAlpha (h : c.isAlpha = true) :
    0x20 < c.toNat ∧ c ≠ '\t' ∧ c ≠ '\r' ∧ c ≠ '\n' := by
  have halphanum : c.isAlphanum = true := by simp [Char.isAlphanum, h]
  exact forall_ascii
    (P := fun c => c.isAlpha = true → 0x20 < c.toNat ∧ c ≠ '\t' ∧ c ≠ '\r' ∧ c ≠ '\n')
    (by decide +kernel) (ascii_of_isAlphanum halphanum) h

/-- What may stand in an authority that is put together from parts. -/
def isPlaceChar (c : Char) : Bool := isUserChar c || c = '[' || c = ']'

theorem ascii_of_isPlaceChar (h : isPlaceChar c = true) : c.toNat < 128 := by
  simp only [isPlaceChar, isUserChar, Bool.or_eq_true, Bool.and_eq_true, decide_eq_true_eq] at h
  rcases h with (⟨⟨-, hlast⟩, -⟩ | rfl) | rfl
  · omega
  all_goals decide

/-- Cleaning keeps the characters of an authority, and none of them ends it. -/
theorem plain_of_isPlaceChar (h : isPlaceChar c = true) :
    (c ≠ '\t' ∧ c ≠ '\r' ∧ c ≠ '\n') ∧ endsAuthority c = false :=
  forall_ascii (P := fun c => isPlaceChar c = true →
    (c ≠ '\t' ∧ c ≠ '\r' ∧ c ≠ '\n') ∧ endsAuthority c = false)
    (by decide +kernel) (ascii_of_isPlaceChar h) h

theorem unbracketed (h : isUserChar c = true) : c ≠ '[' ∧ c ≠ ']' := by
  refine ⟨?_, ?_⟩ <;> rintro rfl <;> cases h

end

/-! ## The characters of the parts -/

theorem Host.Valid.chars {host : Host} {c : Char} (h : host.Valid) (hc : c ∈ host.bare.toList) :
    isHostChar c = true := by
  cases h with
  | name _ hchars => exact isHostChar_of_isNameChar (hchars c hc)
  | literal hversion6 => exact isHostChar_of_isVersion6Char (hversion6.chars hc)

theorem Host.Valid.bare_ne_nil {host : Host} (h : host.Valid) : host.bare.toList ≠ [] := by
  cases h with
  | name hsome => simpa [Host.bare] using hsome
  | literal hversion6 => exact List.ne_nil_of_mem hversion6.mem_colon

namespace Parts

variable (parts : Parts)

theorem map_scheme : parts.scheme.toList.map Char.toLower = "http".toList := by
  rw [← parts.scheme_valid]
  exact String.toList_map.symm

theorem isAlpha_scheme {c : Char} (h : c ∈ parts.scheme.toList) : c.isAlpha = true := by
  have hletters : ∀ letter ∈ "http".toList, letter.isAlpha = true :=
    List.all_eq_true.mp (by decide)
  have hlower := hletters _ (parts.map_scheme ▸ List.mem_map_of_mem h)
  rwa [Char.isAlpha_toLower_eq_isAlpha] at hlower

theorem digits_valid : parts.digits.length ≤ 4300 ∧ ∀ c ∈ parts.digits, c.isDigit = true := by
  rw [digits]
  cases hport : parts.port with
  | none => simp
  | some digits => simpa [String.length_toList] using parts.port_valid digits hport

theorem mem_ofPort {c : Char} (h : c ∈ ofPort (parts.port.map String.toList)) :
    isHostChar c = true := by
  cases hport : parts.port with
  | none =>
    rw [hport] at h
    cases h
  | some digits =>
    rw [hport] at h
    rcases List.mem_cons.mp h with rfl | hc
    · rfl
    · have hdigit := (parts.port_valid digits hport).2 c hc
      exact isHostChar_of_isNameChar (isNameChar_of_isDigit hdigit)

theorem mem_userText {c : Char} (h : c ∈ parts.userText) : isUserChar c = true := by
  rw [userText] at h
  cases huser : parts.user with
  | none =>
    rw [huser] at h
    cases h
  | some text =>
    rw [huser] at h
    rcases List.mem_append.mp h with hc | hc
    · exact parts.user_valid text huser c hc
    · obtain rfl : c = '@' := by simpa using hc
      rfl

theorem spot_of_name {text : String} (h : parts.host = .name text) :
    parts.spot = text.toList ++ ofPort (parts.port.map String.toList) := by
  rw [spot, h, Host.text]

theorem spot_of_literal {text : String} (h : parts.host = .literal text) :
    parts.spot = '[' :: (text.toList ++ ']' :: ofPort (parts.port.map String.toList)) := by
  simp [spot, h, Host.text]

theorem mem_spot {c : Char} (h : c ∈ parts.spot) :
    isHostChar c = true ∨ c = '[' ∨ c = ']' := by
  have hhost {d : Char} (hd : d ∈ parts.host.bare.toList) : isHostChar d = true :=
    parts.host_valid.chars hd
  cases hform : parts.host with
  | name text =>
    rw [parts.spot_of_name hform] at h
    rw [hform] at hhost
    rcases List.mem_append.mp h with hc | hc
    · exact .inl (hhost hc)
    · exact .inl (parts.mem_ofPort hc)
  | literal text =>
    rw [parts.spot_of_literal hform] at h
    rw [hform] at hhost
    simp only [List.mem_cons, List.mem_append] at h
    rcases h with hopens | hc | hcloses | hc
    · exact .inr (.inl hopens)
    · exact .inl (hhost hc)
    · exact .inr (.inr hcloses)
    · exact .inl (parts.mem_ofPort hc)

/-- The last at sign is the one behind the user information, since the host has none. -/
theorem afterLast_place : afterLast '@' parts.place = parts.spot := by
  have hspot : '@' ∉ parts.spot := by
    intro hmem
    rcases parts.mem_spot hmem with hhost | hopens | hcloses
    · exact (isUserChar_of_isHostChar hhost).2 rfl
    · cases hopens
    · cases hcloses
  rw [place, userText]
  cases parts.user with
  | none => exact afterLast_of_not_mem hspot
  | some text =>
    rw [Option.elim_some, List.append_assoc]
    exact afterLast_append hspot

theorem mem_place {c : Char} (h : c ∈ parts.place) : isPlaceChar c = true := by
  rcases List.mem_append.mp h with huser | hspot
  · simp [isPlaceChar, parts.mem_userText huser]
  · rcases parts.mem_spot hspot with hhost | rfl | rfl
    · simp [isPlaceChar, (isUserChar_of_isHostChar hhost).1]
    · rfl
    · rfl

/-- With a name for a host, there are no brackets. -/
theorem unbracketed_place {text : String} (h : parts.host = .name text) :
    '[' ∉ parts.place ∧ ']' ∉ parts.place := by
  have hplain {c : Char} (hc : c ∈ parts.place) : c ≠ '[' ∧ c ≠ ']' := by
    rcases List.mem_append.mp hc with huser | hspot
    · exact unbracketed (parts.mem_userText huser)
    · rw [parts.spot_of_name h] at hspot
      rcases List.mem_append.mp hspot with hname | hport
      · have hhost : c ∈ parts.host.bare.toList := by rwa [h]
        exact unbracketed (isUserChar_of_isHostChar (parts.host_valid.chars hhost)).1
      · exact unbracketed (isUserChar_of_isHostChar (parts.mem_ofPort hport)).1
  exact ⟨fun hmem => (hplain hmem).1 rfl, fun hmem => (hplain hmem).2 rfl⟩

end Parts

end PageTrial.Address
