import ScriptGrader.Document.Cursor
import ScriptGrader.Number.Layout

/-!
# Directives, anchors and tags

The parts of a document that say how to read it or name a node: each is
taken from where the cursor stands on its first character.
-/

namespace ScriptGrader.Document.Scan

/-! ## Names and addresses -/

/-- A run of name characters; there must be one. -/
def name (during : Activity) (start : Mark) : Scan String := do
  let cs := (← get).rest.takeWhile isNameChar
  if cs.isEmpty then expected during start .alphanumeric
  else
    forward cs.length
    return String.ofList cs

/-- The value of hexadecimal digits. -/
def hexNumber (cs : List Char) : Nat :=
  cs.foldl (fun n c => n * 16 + (Numeral.digitIn? 16 c).getD 0) 0

/-- A byte written as a percent sign and two hexadecimal digits. -/
def escapedByte (during : Activity) (start : Mark) : Scan UInt8 := do
  forward 1
  let a ← peek
  let b ← if isHexDigit a then peekAt 1 else pure a
  if isHexDigit b then
    forward 2
    return UInt8.ofNat (hexNumber [a, b])
  else failHere (some (during, some start)) (.expected .uriEscape b)

/-- The bytes of a run of escapes. -/
def escapedBytes (during : Activity) (start : Mark) : Nat → Scan (List UInt8)
  | 0 => return []
  | fuel + 1 => do
    if (← peek) = '%' then
      let b ← escapedByte during start
      return b :: (← escapedBytes during start fuel)
    else return []

/-- The characters that a run of escapes stands for. -/
def escapes (during : Activity) (start : Mark) : Scan (List Char) := do
  let place ← place
  let bytes ← escapedBytes during start (← fuel)
  match Text.decodeFrom 0 bytes with
  | .ok cs => return cs
  | .error e => throw (.marked (some (during, some start)) (.invalidEscape e) place)

/-- A character that stands for itself in the text of a tag. -/
def isUriChar (c : Char) : Bool :=
  (isNameChar c || ";/?:@&=+$,.!~*'()[]".toList.contains c) && c != '%'

/-- The text of a tag. -/
def uriRest (during : Activity) (start : Mark) : Nat → Scan (List Char)
  | 0 => return []
  | fuel + 1 => do
    let cs ← span isUriChar
    if (← peek) = '%' then
      let more ← escapes during start
      return cs ++ more ++ (← uriRest during start fuel)
    else return cs

/-- The text of a tag; there must be some. `missing` is what is reported
as being read if there is none. -/
def uri (during missing : Activity) (start : Mark) : Scan String := do
  let c ← peek
  if isUriChar c || c = '%' then return String.ofList (← uriRest during start (← fuel))
  else expected missing start .uri

/-- The handle of a tag: a name between exclamation marks, or one or two of them. -/
def handle (during : Activity) (start : Mark) : Scan String := do
  if (← peek) != '!' then expected during start .exclamation
  else if (← peekAt 1) = ' ' then
    forward 1
    return "!"
  else
    let cs := ((← get).rest.drop 1).takeWhile isNameChar
    if (← peekAt (cs.length + 1)) = '!' then
      forward (cs.length + 2)
      return String.ofList ('!' :: cs ++ ['!'])
    else
      forward (cs.length + 1)
      expected during start .exclamation

/-! ## Directives -/

/-- A decimal number of a version. -/
def versionNumber (start : Mark) : Scan Nat := do
  let cs := (← get).rest.takeWhile isDecimalDigit
  if cs.isEmpty then expected .directive start .digit
  else
    let _ ← peekAt cs.length
    if Layout.digitLimit < cs.length then throw (.scalar (.tooManyDigits cs.length))
    forward cs.length
    return Numeral.natOf cs

/-- The version that a document is written in. -/
def version (start : Mark) : Scan Directive := do
  let _ ← span (· = ' ')
  let major ← versionNumber start
  if (← peek) != '.' then expected .directive start .digitOrPoint
  forward 1
  let minor ← versionNumber start
  if isGap (← peek) then return .version major minor
  else expected .directive start .digitOrBlank

/-- A handle and what it stands for. -/
def tagHandle (start : Mark) : Scan Directive := do
  let _ ← span (· = ' ')
  let h ← handle .directive start
  if (← peek) != ' ' then expected .directive start .blank
  let _ ← span (· = ' ')
  let stem ← uri .directive .directiveLead start
  if isGap (← peek) then return .tagHandle h stem
  else expected .directive start .blank

/-- A line that must hold nothing more than a comment. -/
def ignoredLine (during : Activity) (start : Mark) : Scan Unit := do
  blanksAndComment
  if isBreakOrEnd (← peek) then
    let _ ← lineBreak
  else expected during start .commentOrBreak

def directive : Scan Token := do
  let start ← place
  forward 1
  let name ← name .directive start
  if !isGap (← peek) then expected .directive start .alphanumeric
  let d ←
    if name = "YAML" then version start
    else if name = "TAG" then tagHandle start
    else pure .unknown
  let stop ← place
  if d = .unknown then
    let _ ← span fun c => !isBreakOrEnd c
  ignoredLine .directive start
  return ⟨.directive d, start, stop⟩

/-! ## Anchors and tags -/

/-- May a name of an anchor end before the character? -/
def endsName (c : Char) : Bool := isWideGap c || "?:,]\x7d%@`".toList.contains c

/-- An anchor, or an alias of one. -/
def anchor : Scan Token := do
  let start ← place
  let isAlias := (← peek) = '*'
  let during : Activity := if isAlias then .reference else .anchor
  forward 1
  let name ← name during start
  if endsName (← peek) then
    return ⟨if isAlias then .reference name else .anchor name, start, ← place⟩
  else expected during start .alphanumeric

/-- Does a tag have a second exclamation mark? -/
def hasHandle : List Char → Bool
  | [] => false
  | c :: r => if c = '!' then true else if isGap c then false else hasHandle r

/-- The tag in front: its handle, and the rest. -/
def tagParts (start : Mark) : Scan (Option String × String) := do
  let c ← peekAt 1
  if c = '<' then
    forward 2
    let text ← uri .tag .tagText start
    if (← peek) != '>' then expected .tagText start .closingAngle
    forward 1
    return (none, text)
  else if isWideGap c then
    forward 1
    return (none, "!")
  else
    let rest := (← get).rest.drop 1
    let run := rest.takeWhile fun c => c != '!' && !isGap c
    let _ ← peekAt (run.length + 1)
    let h ←
      if hasHandle rest then handle .tag start
      else do
        forward 1
        pure "!"
    return (some h, ← uri .tag .tagText start)

def tag : Scan Token := do
  let start ← place
  let (h, suffix) ← tagParts start
  if isGap (← peek) then return ⟨.tag h suffix, start, ← place⟩
  else expected .tag start .blank

end ScriptGrader.Document.Scan
