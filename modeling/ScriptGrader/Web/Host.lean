import ScriptGrader.Number.Layout
import ScriptGrader.Text.LowerCase
import ScriptGrader.Text.Utf8
import ScriptGrader.Web.HostName.Label

/-!
# Hosts

The host of an address is a number of four or of eight parts, or a name.
A name beyond ASCII is written label by label in Punycode, if its labels
are such as may be registered.
-/

namespace ScriptGrader.Web

/-- Why a text is no host. -/
inductive HostError
  | fourParts (host : String)
  | eightParts (host : String)
  | name (host : String)
  deriving DecidableEq, Repr

namespace HostError

def message : HostError → String
  | fourParts h => s!"Invalid IPv4 address: {Text.quoted h}"
  | eightParts h => s!"Invalid IPv6 address: {Text.quoted h}"
  | name h => s!"Invalid IDNA hostname: {Text.quoted h}"

end HostError

/-! ## Percent signs -/

def isHexDigit (c : Char) : Bool := (Numeral.digitIn? 16 c).isSome && c.toNat < 0x80

/-- Letters, digits and the four signs that are written as they are everywhere. -/
def isUnreserved (c : Char) : Bool :=
  ('a' ≤ c && c ≤ 'z') || ('A' ≤ c && c ≤ 'Z') || ('0' ≤ c && c ≤ '9') || "-._~".toList.contains c

/-- The bytes of a character, each behind a percent sign. -/
def percent (c : Char) : List Char :=
  (Text.encode (String.singleton c)).flatMap fun b => '%' :: (Text.hex 2 b.toNat).map Char.toUpper

/-- A text in which only safe characters are written as they are; what is
written with percent signs already stays so. -/
def quote (isSafe : Char → Bool) : List Char → List Char
  | [] => []
  | c :: r =>
    match c, r with
    | '%', a :: b :: r =>
      if isHexDigit a && isHexDigit b then '%' :: a :: b :: quote isSafe r
      else (if isSafe '%' then ['%'] else percent '%') ++ quote isSafe (a :: b :: r)
    | c, r => (if isUnreserved c || isSafe c then [c] else percent c) ++ quote isSafe r

/-- The bytes of a text in ASCII, in which some are written behind percent signs. -/
def unquotedBytes : List Char → List UInt8
  | '%' :: a :: b :: r =>
    match Numeral.digitIn? 16 a, Numeral.digitIn? 16 b with
    | some m, some n => UInt8.ofNat (m * 16 + n) :: unquotedBytes r
    | _, _ => 37 :: unquotedBytes (a :: b :: r)
  | c :: r => UInt8.ofNat c.toNat :: unquotedBytes r
  | [] => []

namespace Host

/-! ## Numbers -/

def isDecimal (c : Char) : Bool := '0' ≤ c && c ≤ '9'

/-- Does a text look like four numbers? -/
def looksLikeFour (cs : List Char) : Bool :=
  let parts := cs.splitOn '.'
  parts.length = 4 && parts.all fun p => !p.isEmpty && p.all isDecimal

/-- A number below 256, without needless zeros. -/
def isOctet (cs : List Char) : Bool :=
  !cs.isEmpty && cs.length ≤ 3 && cs.all isDecimal && (cs.length = 1 || cs.head? ≠ some '0') &&
    Numeral.natOf cs < 256

def isFour (cs : List Char) : Bool :=
  let parts := cs.splitOn '.'
  parts.length = 4 && parts.all isOctet

/-- One of eight parts. -/
def isPart (cs : List Char) : Bool := !cs.isEmpty && cs.length ≤ 4 && cs.all isHexDigit

/-- The eight parts of a number, some of which may be left out once; the
last two may be written as four. -/
def isEightNumbers (cs : List Char) : Bool :=
  let parts := cs.splitOn ':'
  let last := parts.getLastD []
  let isMixed := last.contains '.'
  let parts := if isMixed then parts.dropLast ++ [['0'], ['0']] else parts
  let inner := (parts.drop 1).dropLast
  let gaps := inner.countP List.isEmpty
  let isFirstEmpty := parts.head? = some []
  let isLastEmpty := parts.getLast? = some []
  3 ≤ (cs.splitOn ':').length && (!isMixed || isFour last) && parts.length ≤ 9 &&
    if gaps = 0 then parts.length = 8 && parts.all isPart
    else
      let front := parts.takeWhile (!·.isEmpty)
      let at_ := if isFirstEmpty then 1 else front.length
      let before := if isFirstEmpty then 0 else at_
      let behind := parts.length - at_ - 1 - (if isLastEmpty then 1 else 0)
      gaps = 1 && (!isFirstEmpty || at_ = 1 && (parts.drop 1).head? = some []) &&
        (!isLastEmpty || behind = 0) && before + behind < 8 &&
        (parts.filter (!·.isEmpty)).all isPart

/-- A number of eight parts, with a zone behind a percent sign. -/
def isEight (cs : List Char) : Bool :=
  match cs.dropWhile (· ≠ '%') with
  | [] => isEightNumbers cs
  | _ :: zone => !zone.isEmpty && !zone.contains '%' && isEightNumbers (cs.takeWhile (· ≠ '%'))

/-! ## Names -/

/-- Signs that are written as they are in a name. -/
def nameSigns : List Char := "!$&'()*+,;=\"`\x7b\x7d%|\\".toList

/-- The written form of a host. -/
def ofText? (cs : List Char) : Except HostError (List Char) :=
  let host := String.ofList cs
  if cs.isEmpty then .ok []
  else if looksLikeFour cs then
    if isFour cs then .ok cs else .error (.fourParts host)
  else if cs.head? = some '[' ∧ 2 ≤ cs.length ∧ cs.getLast? = some ']' then
    let inside := (cs.drop 1).dropLast
    if isEight inside then .ok inside else .error (.eightParts host)
  else
    let lower := (Text.lower host).toList
    if cs.all (·.toNat < 0x80) then .ok (quote nameSigns.contains lower)
    else
      match HostName.written? lower with
      | some written => .ok written
      | none => .error (.name host)

end Host
end ScriptGrader.Web
