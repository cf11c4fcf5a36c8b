import PageTrial.Proofs.Address.Parts

/-!
# Taking an address apart that was put together

The delimiters of an address may occur where they delimit nothing: a colon or an at sign in the
user information or in the tail, a colon between brackets. `Parts` are what an address is composed
of, and `ofUrl_text` says that the host and the port are found again wherever such characters
stand. Each stage of `ofUrl` has its lemma, in the order in which the stages are passed: the text is
cleaned, the scheme is cut off, the authority ends before the tail, and what comes after the user
information is the host with its port.

`ofUrl_notServable_iff` is about all other addresses that can be split: they are refused if the
scheme is another one or if there is no host.
-/

set_option autoImplicit false

namespace PageTrial.Address

open Text

/-! ## Scheme and authority -/

section

variable {scheme place rest : List Char}

/-- Cleaning leaves a text without blanks and line ends at its front as it is, whatever becomes of
the rest. -/
theorem exists_cleaned {c : Char} {front tail : List Char} (hfirst : 0x20 < c.toNat)
    (hfront : ∀ d ∈ c :: front, d ≠ '\t' ∧ d ≠ '\r' ∧ d ≠ '\n')
    (htail : ∀ d ∈ tail.head?, endsAuthority d = true) :
    ∃ rest, cleaned (c :: front ++ tail) = c :: front ++ rest ∧
      ∀ d ∈ rest.head?, endsAuthority d = true := by
  refine ⟨tail.filter fun d => d ≠ '\t' && d ≠ '\r' && d ≠ '\n', ?_, ?_⟩
  · rw [cleaned, List.cons_append, List.dropWhile_cons_of_neg (by simpa using hfirst),
      ← List.cons_append, List.filter_append]
    congr 1
    exact List.filter_eq_self.mpr fun d hd => by simpa [and_assoc] using hfront d hd
  · cases tail with
    | nil => simp
    | cons d more =>
      have hends : endsAuthority d = true := htail d rfl
      have hkept : (d ≠ '\t' && d ≠ '\r' && d ≠ '\n') = true := by
        simp only [endsAuthority, Bool.or_eq_true, decide_eq_true_eq] at hends
        rcases hends with (rfl | rfl) | rfl <;> rfl
      rw [List.filter_cons, if_pos hkept]
      simpa using hends

theorem splitScheme_append (hscheme : scheme ≠ []) (hletters : ∀ c ∈ scheme, c.isAlpha = true) :
    splitScheme (scheme ++ ':' :: rest) = (scheme.map Char.toLower, rest) := by
  have hcolon : ':' ∉ scheme := fun h => by cases hletters _ h
  have hchars : scheme.all isSchemeChar = true := List.all_eq_true.mpr fun c hc => by
    simp [isSchemeChar, Char.isAlphanum, hletters c hc]
  obtain ⟨c, more, rfl⟩ := List.exists_cons_of_ne_nil hscheme
  have hbegins : c.isAlpha = true := hletters c List.mem_cons_self
  have hcontains : (c :: more ++ ':' :: rest).contains ':' = true := by simp
  unfold splitScheme
  rw [before_append hcolon, after_append hcolon, hcontains]
  simp only [List.cons_append, hbegins, hchars, Bool.and_self, if_true]

theorem authority_append (hplace : ∀ c ∈ place, endsAuthority c = false)
    (hrest : ∀ c ∈ rest.head?, endsAuthority c = true) :
    authority ('/' :: '/' :: (place ++ rest)) = place := by
  rw [authority, List.takeWhile_append_of_pos (by simpa using hplace)]
  cases rest with
  | nil => simp
  | cons c more =>
    have hends : endsAuthority c = true := hrest c rfl
    simp [hends]

/-- Plain ASCII hides no delimiters. -/
theorem checkDelimiters_of_ascii (h : ∀ c ∈ place, c.toNat < 128) :
    checkDelimiters place = .ok () := by
  have hbeyond : hiddenDelimiters.all (128 ≤ ·.toNat) = true := by decide
  refine if_neg ?_
  simp only [List.any_eq_true, List.contains_iff_mem, not_exists, not_and]
  intro c hc hhidden
  have hcode := h c hc
  have hcode' : 128 ≤ c.toNat := of_decide_eq_true (List.all_eq_true.mp hbeyond c hhidden)
  omega

end

/-! ## Host and port -/

section

variable {name inside cs : List Char} {port : Option (List Char)}

theorem before_ofPort (hname : ':' ∉ name) :
    before ':' (name ++ ofPort port) = name := by
  cases port with
  | none => rw [ofPort, Option.elim_none, List.append_nil, before_of_not_mem hname]
  | some digits => exact before_append hname

theorem after_ofPort (hname : ':' ∉ name) :
    after ':' (name ++ ofPort port) = port.getD [] := by
  cases port with
  | none => rw [ofPort, Option.elim_none, List.append_nil, after_of_not_mem hname]; rfl
  | some digits => exact after_append hname

theorem natOfDigits_eq (cs : List Char) :
    Decimal.natOfDigits cs = Nat.ofDigits 10 (cs.reverse.map fun c => c.toNat - '0'.toNat) := by
  rw [Decimal.natOfDigits, List.foldl_eq_foldr_reverse, Nat.ofDigits_eq_foldr, List.foldr_map]
  congr 1
  funext c n
  exact Nat.add_comm _ _

theorem portNumber_of_digits (hdigits : ∀ c ∈ cs, c.isDigit = true) (hlength : cs.length ≤ 4300) :
    portNumber cs =
      if 65535 < Decimal.natOfDigits cs then .error .portOutOfRange
      else .ok (if Decimal.natOfDigits cs = 0 then 80 else Decimal.natOfDigits cs) := by
  have hall : cs.all Char.isDigit = true := List.all_eq_true.mpr hdigits
  have hshort : ¬portDigitLimit < cs.length := Nat.not_lt.mpr hlength
  cases cs with
  | nil => rfl
  | cons c rest => rw [portNumber, if_neg (by simp), if_neg (by simp [hall]), if_neg hshort]

/-- Between brackets, an address of version six is accepted. -/
theorem Version6.checkBracketed (h : Version6 cs) : checkBracketed cs = .ok () := by
  have hlater : cs.head? ≠ some 'v' := fun hhead =>
    h.not_mem rfl (List.mem_of_mem_head? hhead)
  have hversion4 : ¬isVersion4 cs = true := by
    intro hversion4
    rcases isVersion4_chars hversion4 h.mem_colon with hdigit | hpoint
    · cases hdigit
    · cases hpoint
  rw [Address.checkBracketed, if_neg hlater, if_neg hversion4, if_pos (isVersion6_iff.mpr h).1]

theorem mem_of_mem_afterLast {c d : Char} (h : c ∈ afterLast d cs) : c ∈ cs := by
  have hmem := (List.takeWhile_sublist (· ≠ d)).subset (List.mem_reverse.mp h)
  exact List.mem_reverse.mp hmem

theorem checkBrackets_plain (hopening : '[' ∉ cs) (hclosing : ']' ∉ cs) :
    checkBrackets cs = .ok () := by
  have hopening' : cs.contains '[' = false := by simpa using hopening
  have hclosing' : cs.contains ']' = false := by simpa using hclosing
  rw [checkBrackets, hopening', hclosing']
  rfl

/-- Brackets right after the user information, with at most a port behind them, are in order if
what they enclose is. -/
theorem checkBrackets_bracketed (hlast : afterLast '@' cs = '[' :: (inside ++ ']' :: ofPort port))
    (hinside : ']' ∉ inside) : checkBrackets cs = checkBracketed inside := by
  have hopening : cs.contains '[' = true := by
    refine List.contains_iff_mem.mpr (mem_of_mem_afterLast (d := '@') ?_)
    simp [hlast]
  have hclosing : cs.contains ']' = true := by
    refine List.contains_iff_mem.mpr (mem_of_mem_afterLast (d := '@') ?_)
    simp [hlast]
  have hbracketed : ('[' :: (inside ++ ']' :: ofPort port)).contains '[' = true := by simp
  have hbefore : before '[' ('[' :: (inside ++ ']' :: ofPort port)) = [] := rfl
  have hafter : after '[' ('[' :: (inside ++ ']' :: ofPort port)) =
      inside ++ ']' :: ofPort port := rfl
  have htail : (!(ofPort port).isEmpty && decide ((ofPort port).head? ≠ some ':')) = false := by
    cases port <;> rfl
  rw [checkBrackets, hopening, hclosing, hlast]
  simp only [hbracketed, hbefore, hafter, after_append hinside, before_append hinside, htail]
  rfl

theorem hostAndPort_plain (hlast : afterLast '@' cs = name ++ ofPort port)
    (hopening : '[' ∉ name ++ ofPort port) (hname : ':' ∉ name) :
    hostAndPort cs = (name, port.getD []) := by
  have hopening' : (name ++ ofPort port).contains '[' = false := by
    simpa only [← Bool.not_eq_true, List.contains_iff_mem] using hopening
  rw [hostAndPort, hlast]
  simp only [hopening', before_ofPort hname, after_ofPort hname]
  rfl

/-- Between brackets, a colon begins no port. -/
theorem hostAndPort_bracketed (hlast : afterLast '@' cs = '[' :: (inside ++ ']' :: ofPort port))
    (hinside : ']' ∉ inside) : hostAndPort cs = (inside, port.getD []) := by
  have hbracketed : ('[' :: (inside ++ ']' :: ofPort port)).contains '[' = true := by simp
  have hafter : after '[' ('[' :: (inside ++ ']' :: ofPort port)) =
      inside ++ ']' :: ofPort port := rfl
  have hport : after ':' (ofPort port) = port.getD [] := by
    cases port <;> rfl
  rw [hostAndPort, hlast]
  simp only [hbracketed, hafter, after_append hinside, before_append hinside, hport]
  rfl

theorem normalHost_of_valid {host : Host} (h : host.Valid) :
    normalHost host.bare.toList = host.bare.toLower := by
  have hzone : '%' ∉ host.bare.toList := fun hmem => by cases h.chars hmem
  rw [normalHost, before_of_not_mem hzone, dropWhile_of_not_mem hzone, String.ofList_toList,
    lowercase_of_ascii fun c hc => ascii_of_isHostChar (h.chars hc)]
  simp

end

/-! ## What was put together is found again -/

namespace Parts

variable (parts : Parts)

theorem checkBrackets_place : checkBrackets parts.place = .ok () := by
  have hvalid := parts.host_valid
  cases hhost : parts.host with
  | name text =>
    obtain ⟨hopening, hclosing⟩ := parts.unbracketed_place hhost
    exact checkBrackets_plain hopening hclosing
  | literal text =>
    rw [hhost] at hvalid
    cases hvalid with
    | literal hversion6 =>
      rw [checkBrackets_bracketed (parts.afterLast_place.trans (parts.spot_of_literal hhost))
        (hversion6.not_mem rfl), hversion6.checkBracketed]

theorem hostAndPort_place :
    hostAndPort parts.place = (parts.host.bare.toList, parts.digits) := by
  have hvalid := parts.host_valid
  cases hhost : parts.host with
  | name text =>
    rw [hhost] at hvalid
    cases hvalid with
    | name _ hchars =>
      have hspot := parts.spot_of_name hhost
      have hopening : '[' ∉ parts.spot := fun hmem =>
        (parts.unbracketed_place hhost).1 (List.mem_append_right _ hmem)
      rw [hspot] at hopening
      exact hostAndPort_plain (parts.afterLast_place.trans hspot) hopening fun hmem => by
        cases hchars _ hmem
  | literal text =>
    rw [hhost] at hvalid
    cases hvalid with
    | literal hversion6 =>
      exact hostAndPort_bracketed (parts.afterLast_place.trans (parts.spot_of_literal hhost))
        (hversion6.not_mem rfl)

theorem exists_split : ∃ rest,
    splitScheme (cleaned parts.text.toList) = ("http".toList, rest) ∧
      authority rest = parts.place := by
  have hscheme : parts.scheme.toList ≠ [] := by
    intro hnone
    have hlower := parts.map_scheme
    rw [hnone] at hlower
    cases hlower
  obtain ⟨c, more, hletters⟩ := List.exists_cons_of_ne_nil hscheme
  have hplain (d : Char) (hd : d ∈ c :: (more ++ ':' :: '/' :: '/' :: parts.place)) :
      d ≠ '\t' ∧ d ≠ '\r' ∧ d ≠ '\n' := by
    rw [← List.cons_append, ← hletters] at hd
    rcases List.mem_append.mp hd with hletter | hd
    · exact (plain_of_isAlpha (parts.isAlpha_scheme hletter)).2
    · simp only [List.mem_cons] at hd
      rcases hd with rfl | rfl | rfl | hd
      · decide
      · decide
      · decide
      · exact (plain_of_isPlaceChar (parts.mem_place hd)).1
  have htail (d : Char) (hd : d ∈ parts.tail.toList.head?) : endsAuthority d = true := by
    rcases parts.tail_valid d hd with rfl | rfl | rfl <;> rfl
  have hfirst : 0x20 < c.toNat := (plain_of_isAlpha (parts.isAlpha_scheme (by simp [hletters]))).1
  obtain ⟨rest, hcleaned, hrest⟩ := exists_cleaned hfirst hplain htail
  refine ⟨'/' :: '/' :: (parts.place ++ rest), ?_, ?_⟩
  · have htext : parts.text.toList =
        c :: (more ++ ':' :: '/' :: '/' :: parts.place) ++ parts.tail.toList := by
      simp [parts.toList_text, hletters]
    have hagain : c :: (more ++ ':' :: '/' :: '/' :: parts.place) ++ rest =
        parts.scheme.toList ++ ':' :: '/' :: '/' :: (parts.place ++ rest) := by
      simp [hletters]
    rw [htext, hcleaned, hagain, splitScheme_append hscheme fun d => parts.isAlpha_scheme,
      parts.map_scheme]
  · exact authority_append (fun d hd => (plain_of_isPlaceChar (parts.mem_place hd)).2) hrest

end Parts

/-- What splitting an address finds, if nothing about it is wrong. -/
structure Splits (url : String) (scheme host port : List Char) : Prop where
  intro ::
  scheme_eq : (splitScheme (cleaned url.toList)).1 = scheme
  brackets : checkBrackets (authority (splitScheme (cleaned url.toList)).2) = .ok ()
  delimiters : checkDelimiters (authority (splitScheme (cleaned url.toList)).2) = .ok ()
  place_eq : hostAndPort (authority (splitScheme (cleaned url.toList)).2) = (host, port)

variable {url : String} {scheme host port : List Char}

/-- Of an address that can be split, the port matters only if the scheme is the right one and
there is a host. -/
theorem Splits.ofUrl (h : Splits url scheme host port) :
    ofUrl url =
      if scheme ≠ "http".toList ∨ host = [] then .error (.notServable url)
      else (portNumber port).map (normalHost host, ·) := by
  unfold Address.ofUrl
  simp only [h.scheme_eq, h.brackets, h.delimiters, h.place_eq]
  by_cases hrefused : scheme ≠ "http".toList ∨ host = []
  · have hcheck : (decide (scheme ≠ "http".toList) || host.isEmpty) = true := by
      simpa using hrefused
    rw [if_pos hrefused, if_pos hcheck]
    rfl
  · have hcheck : ¬(decide (scheme ≠ "http".toList) || host.isEmpty) = true := by
      simpa using hrefused
    rw [if_neg hrefused, if_neg hcheck]
    cases portNumber port <;> rfl

theorem Parts.splits (parts : Parts) :
    Splits parts.text "http".toList parts.host.bare.toList parts.digits := by
  obtain ⟨rest, hsplit, hplace⟩ := parts.exists_split
  constructor
  · rw [hsplit]
  · rw [hsplit, hplace, parts.checkBrackets_place]
  · rw [hsplit, hplace]
    exact checkDelimiters_of_ascii fun c hc => ascii_of_isPlaceChar (parts.mem_place hc)
  · rw [hsplit, hplace, parts.hostAndPort_place]

theorem ofUrl_text (parts : Parts) :
    ofUrl parts.text =
      if 65535 < parts.number then .error .portOutOfRange
      else .ok (parts.host.bare.toLower, if parts.number = 0 then 80 else parts.number) := by
  obtain ⟨hlength, hdigits⟩ := parts.digits_valid
  have hnumber : Decimal.natOfDigits parts.digits = parts.number := natOfDigits_eq parts.digits
  rw [parts.splits.ofUrl, if_neg (by simpa using parts.host_valid.bare_ne_nil),
    portNumber_of_digits hdigits hlength, hnumber, normalHost_of_valid parts.host_valid]
  split <;> rfl

/-- An address that cannot be split is refused for the reason that it cannot be split. -/
theorem exists_splits (url : String) :
    (∃ scheme host port, Splits url scheme host port) ∨
      ∃ place flaw, ofUrl url = .error flaw ∧
        (checkBrackets place = .error flaw ∨ checkDelimiters place = .error flaw) := by
  cases hbrackets : checkBrackets (authority (splitScheme (cleaned url.toList)).2) with
  | error flaw =>
    refine .inr ⟨_, flaw, ?_, .inl hbrackets⟩
    unfold Address.ofUrl
    simp only [hbrackets]
    rfl
  | ok _ =>
    cases hdelimiters : checkDelimiters (authority (splitScheme (cleaned url.toList)).2) with
    | error flaw =>
      refine .inr ⟨_, flaw, ?_, .inr hdelimiters⟩
      unfold Address.ofUrl
      simp only [hbrackets, hdelimiters]
      rfl
    | ok _ => exact .inl ⟨_, _, _, rfl, hbrackets, hdelimiters, rfl⟩

theorem checkBracketed_ne {cs : List Char} : checkBracketed cs ≠ .error (.notServable url) := by
  unfold checkBracketed
  repeat' split
  all_goals simp

theorem checkBrackets_ne {cs : List Char} : checkBrackets cs ≠ .error (.notServable url) := by
  unfold checkBrackets
  split
  · simp
  · split
    · dsimp only
      split
      · split
        · simp
        · exact checkBracketed_ne
      · exact checkBracketed_ne
    · simp

theorem checkDelimiters_ne {cs : List Char} : checkDelimiters cs ≠ .error (.notServable url) := by
  unfold checkDelimiters
  split <;> simp

theorem portNumber_ne {cs : List Char} : portNumber cs ≠ .error (.notServable url) := by
  unfold portNumber
  dsimp only
  repeat' split
  all_goals simp

/-- Exactly which addresses are refused because no page can be served under them: those that can be
split, but have another scheme or no host. -/
theorem ofUrl_notServable_iff :
    ofUrl url = .error (.notServable url) ↔
      ∃ scheme host port, Splits url scheme host port ∧ (scheme ≠ "http".toList ∨ host = []) := by
  constructor
  · intro hrefused
    rcases exists_splits url with ⟨scheme, host, port, hsplits⟩ | ⟨place, flaw, hflaw, hcheck⟩
    · refine ⟨scheme, host, port, hsplits, Decidable.byContradiction fun hservable => ?_⟩
      rw [hsplits.ofUrl, if_neg hservable] at hrefused
      cases hport : portNumber port with
      | ok n =>
        rw [hport] at hrefused
        cases hrefused
      | error flaw =>
        rw [hport] at hrefused
        cases hrefused
        exact portNumber_ne hport
    · rw [hflaw] at hrefused
      cases hrefused
      rcases hcheck with hbrackets | hdelimiters
      · exact absurd hbrackets checkBrackets_ne
      · exact absurd hdelimiters checkDelimiters_ne
  · rintro ⟨scheme, host, port, hsplits, hrefused⟩
    rw [hsplits.ofUrl, if_pos hrefused]

/-- Taking an address apart inverts putting it together: the host comes back in lower case and
without brackets, and the port as the number it is written as, where no port and zero stand for the
usual one and a number that no port has is refused. Any other address that can be split, because of
its scheme or because it has no host, is refused with its own text. -/
theorem ofUrl_inverts :
    (∀ parts : Parts, ofUrl parts.text =
      if 65535 < parts.number then .error .portOutOfRange
      else .ok (parts.host.bare.toLower, if parts.number = 0 then 80 else parts.number)) ∧
    ∀ (url : String) (scheme host port : List Char), Splits url scheme host port →
      scheme ≠ "http".toList ∨ host = [] →
        ∃ flaw, ofUrl url = .error flaw ∧
          flaw.message = "Can only serve plain http URLs, got: " ++ url :=
  ⟨ofUrl_text, fun url scheme host port hsplits hrefused =>
    ⟨.notServable url, ofUrl_notServable_iff.mpr ⟨scheme, host, port, hsplits, hrefused⟩, rfl⟩⟩

/-- An address with delimiters wherever they do not delimit. -/
def tangled : Parts where
  scheme := "HtTp"
  user := some "u:p@x"
  host := .literal "FE80::1"
  port := some "08080"
  tail := "?@:1/[é]"
  scheme_valid := String.map_eq_internal.trans (by decide)
  user_valid := by
    rintro _ ⟨⟩
    exact List.all_eq_true.mp (by decide)
  host_valid := .literal (isVersion6_iff.mp (by decide))
  port_valid := by
    rintro _ ⟨⟩
    exact ⟨by decide, List.all_eq_true.mp (by decide)⟩
  tail_valid := by
    rintro _ ⟨⟩
    exact .inr (.inl rfl)

theorem ofUrl_inverts_tangled :
    ofUrl "HtTp://u:p@x@[FE80::1]:08080?@:1/[é]" = .ok ("fe80::1", 8080) ∧
    ∃ flaw, ofUrl "http://user@:80/" = .error flaw ∧
      flaw.message = "Can only serve plain http URLs, got: http://user@:80/" := by
  constructor
  · have htext : tangled.text = "HtTp://u:p@x@[FE80::1]:08080?@:1/[é]" := by decide
    have hnumber : tangled.number = 8080 := by decide
    have hhost : tangled.host.bare.toLower = "fe80::1" := String.map_eq_internal.trans (by decide)
    rw [← htext, ofUrl_inverts.1 tangled, hnumber, hhost]
    rfl
  · exact ofUrl_inverts.2 "http://user@:80/" "http".toList [] "80".toList
      ⟨by decide, by decide, by decide, by decide⟩ (.inr rfl)

end PageTrial.Address
