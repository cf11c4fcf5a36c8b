import PageTrial.Decimal.Numeral
import PageTrial.Text.Cut
import PageTrial.Text.Quoted

/-!
# Addresses in numbers

What may stand between brackets in place of a host name: an address of version six, whose last
two groups may be written as an address of version four, or an address of a version yet to come.
Addresses are only recognised here; they are kept as written.
-/

set_option autoImplicit false

namespace PageTrial.Address

open PageTrial.Text

def isHexDigit (c : Char) : Bool :=
  c.isDigit || ('a' ≤ c && c ≤ 'f') || ('A' ≤ c && c ≤ 'F')

/-- A number of one to three digits below 256, without leading zeros. -/
def isOctet (cs : List Char) : Bool :=
  !cs.isEmpty && cs.all Char.isDigit && cs.length ≤ 3 && (cs = ['0'] || cs.head? ≠ some '0')
    && Decimal.natOfDigits cs ≤ 255

/-- An address of version four: four octets between points. -/
def isVersion4 (cs : List Char) : Bool :=
  let octets := pieces '.' cs
  octets.length = 4 && octets.all isOctet

def isGroup (cs : List Char) : Bool := !cs.isEmpty && cs.length ≤ 4 && cs.all isHexDigit

/-- The groups with a version four address at the end counted as two groups; none if there is
such an ending and it is no address. -/
def groups? (cs : List Char) : Option (List (List Char)) :=
  let parts := pieces ':' cs
  match parts.getLast? with
  | some last =>
    if last.contains '.' then
      if isVersion4 last then some (parts.dropLast ++ [['0'], ['0']]) else none
    else some parts
  | none => some parts

/-- Eight groups, or fewer with one gap. A gap is an empty group that is not at an end; at an end
there are two empty groups then, of which the outer one stands for nothing. -/
def areGroups (groups : List (List Char)) : Bool :=
  let inner := (groups.drop 1).dropLast
  match inner.filter List.isEmpty with
  | [] => groups.length = 8 && groups.all isGroup
  | [_] =>
    let high := groups.takeWhile (!·.isEmpty)
    let low := (groups.reverse.takeWhile (!·.isEmpty)).reverse
    let opens := groups.head? = some []
    let closes := groups.getLast? = some []
    let gap := (groups.drop 1).findIdx List.isEmpty + 1
    (!opens || gap = 1) && (!closes || gap + 2 = groups.length)
      && high.all isGroup && low.all isGroup && high.length + low.length < 8
  | _ => false

/-- An address of version six, with or without a zone after a percent sign. -/
def isVersion6 (cs : List Char) : Bool :=
  let zone := after '%' cs
  let zoned := cs.contains '%'
  let plain := before '%' cs
  (!zoned || (!zone.isEmpty && !zone.contains '%'))
    && !plain.contains '/'
    && 3 ≤ (pieces ':' plain).length
    && match groups? plain with
      | some groups => groups.length ≤ 9 && areGroups groups
      | none => false

/-- An address of a later version: the letter `v`, a hexadecimal version, a point, and more. -/
def isLaterVersion (cs : List Char) : Bool :=
  match cs with
  | 'v' :: rest =>
    let version := rest.takeWhile isHexDigit
    match rest.dropWhile isHexDigit with
    | '.' :: more => !version.isEmpty && !more.isEmpty
    | _ => false
  | _ => false

end PageTrial.Address
