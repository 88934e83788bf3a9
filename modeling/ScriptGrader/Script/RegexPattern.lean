import ScriptGrader.Script.RegexPattern.Escape

/-!
# Regular expressions

A script may hold regular expressions, and one that is malformed makes the
whole script malformed. `isValid` reads a body once and checks groups,
sets, repetitions, conditions, escapes and references. Where the flag `x`
holds, blanks and comments are passed over.
-/

namespace ScriptGrader.Script.RegexPattern

/-! ## Repetitions -/

/-- A number in decimal digits, if there is one. -/
def decimal (us : List Piece) : Option Nat × List Piece :=
  let digits := (us.takeWhile (·.isPlain isDecimalDigit)).filterMap Piece.char?
  let value := digits.foldl (fun n c => n * 10 + octalValue c) 0
  (if digits.isEmpty then none else some value, us.dropWhile (·.isPlain isDecimalDigit))

/-- Bounds between braces. -/
inductive Bounds
  /-- The braces are ordinary characters. -/
  | literal
  | invalid
  | range (least : Nat) (most : Option Nat) (rest : List Piece)

def bounds (us : List Piece) : Bounds :=
  match us with
  | .plain '\x7d' :: _ => .literal
  | _ =>
    let (low, r₁) := decimal us
    let (high, r₂) := match r₁ with
      | .plain ',' :: r => decimal r
      | r => (low, r)
    match r₂ with
    | .plain '\x7d' :: rest =>
      let tooLarge (n : Option Nat) : Bool := match n with
        | some n => 0xffffffff ≤ n
        | none => false
      if tooLarge low || tooLarge high then .invalid
      else
        match high with
        | some n => if n < low.getD 0 then .invalid else .range (low.getD 0) high rest
        | none => .range (low.getD 0) none rest
    | _ => .literal

/-! ## Parts -/

/-- Where alternatives stand: at the start of the body, where flags for the
whole body may stand, elsewhere outside of groups, or in a group. -/
inductive Site
  | start
  | outer
  | inner
  deriving DecidableEq, Repr

/-- Blanks that are passed over where the flag `x` holds. -/
def isPassedBlank (c : Char) : Bool := c = ' ' || ('\t' ≤ c && c ≤ '\r')

/-- What was read: its width, what is known behind it, and the rest. -/
abbrev Part := Width × Groups × List Piece

mutual

/-- Alternatives up to a closing parenthesis or the end. -/
def alternatives : Nat → Site → Bool → Groups → List Piece → Option Part
  | 0, _, _, _, _ => none
  | fuel + 1, site, spaced, g, us =>
    match sequence fuel site spaced g us .zero none with
    | none => none
    | some (w, g, .plain '|' :: r) =>
      let (site, spaced) := if site = .inner then (.inner, spaced) else (.outer, g.flags.contains 'x')
      match alternatives fuel site spaced g r with
      | none => none
      | some (v, g, rest) => some (w.either v, g, rest)
    | some r => some r

/-- Items one after another; `before` measures those before the last one. -/
def sequence : Nat → Site → Bool → Groups → List Piece → Width → Option Item → Option Part
  | 0, _, _, _, _, _, _ => none
  | fuel + 1, site, spaced, g, us, before, last =>
    let soFar := match last with
      | some i => before.append i.width
      | none => before
    let add (g : Groups) (i : Item) (rest : List Piece) :=
      sequence fuel site spaced g rest soFar (some i)
    let repeating (least : Nat) (most : Option Nat) (r : List Piece) :=
      match last with
      | some ⟨.other, w⟩ =>
        let rest := match r with
          | .plain '?' :: r | .plain '+' :: r => r
          | r => r
        sequence fuel site spaced { g with repeats := true } rest before
          (some ⟨.repetition, w.repeated least most⟩)
      | _ => none
    match us with
    | [] => some (soFar, g, [])
    | .plain '|' :: _ | .plain ')' :: _ => some (soFar, g, us)
    | .escaped c :: r =>
      match escape? g c r with
      | some (i, rest) => add g i rest
      | none => none
    | .plain '[' :: r =>
      let r := match r with
        | .plain '^' :: r => r
        | r => r
      match setRest? (r.length + 1) false r with
      | some rest => add g .single rest
      | none => none
    | .plain '?' :: r => repeating 0 (some 1) r
    | .plain '*' :: r => repeating 0 none r
    | .plain '+' :: r => repeating 1 none r
    | .plain '\x7b' :: r =>
      match bounds r with
      | .literal => add g .single r
      | .invalid => none
      | .range least most rest => repeating least most rest
    | .plain '^' :: r | .plain '$' :: r => add g ⟨.place, .zero⟩ r
    | .plain '(' :: .plain '?' :: .plain '#' :: r =>
      match r.dropWhile (· ≠ .plain ')') with
      | _ :: rest => sequence fuel site spaced g rest before last
      | [] => none
    | .plain '(' :: .plain '?' :: .plain 'P' :: .plain '=' :: r =>
      match textUpTo? ')' r with
      | some (name, rest) =>
        match (g.names.lookup (String.ofList name)).bind g.closed? with
        | some w => add g ⟨.other, w⟩ rest
        | none => none
      | none => none
    | .plain '(' :: .plain '?' :: .plain '(' :: r =>
      match textUpTo? ')' r with
      | some (text, r) =>
        match (g.condition? text).bind fun g => condition fuel spaced g r with
        | some (w, g, rest) => add g ⟨.other, w⟩ rest
        | none => none
      | none => none
    | .plain '(' :: .plain '?' :: .plain '=' :: r | .plain '(' :: .plain '?' :: .plain '!' :: r =>
      match content fuel spaced g r with
      | some (_, g, rest) => add g ⟨.other, .zero⟩ rest
      | none => none
    | .plain '(' :: .plain '?' :: .plain '<' :: .plain c :: r =>
      if c = '=' || c = '!' then
        match content fuel spaced { g with behind := g.behind.or (some g.widths.length) } r with
        | some (w, g', rest) =>
          if w.isFixed then add { g' with behind := g.behind } ⟨.other, .zero⟩ rest else none
        | none => none
      else none
    | .plain '(' :: .plain '?' :: .plain ':' :: r | .plain '(' :: .plain '?' :: .plain '>' :: r =>
      match content fuel spaced g r with
      | some (w, g, rest) => add g ⟨.other, w⟩ rest
      | none => none
    | .plain '(' :: .plain '?' :: .plain 'P' :: .plain '<' :: r =>
      match (textUpTo? '>' r).filter fun (name, _) => isName name with
      | some (name, rest) =>
        match (g.opened (some (String.ofList name))).bind fun g' => content fuel spaced g' rest with
        | some (w, g', rest) => add (g'.close g.widths.length w) ⟨.other, w⟩ rest
        | none => none
      | none => none
    | .plain '(' :: .plain '?' :: r =>
      match flags? r with
      | some (.whole flags rest) =>
        let g := { g with flags := g.flags ++ flags }
        if site = .start && last.isNone then
          sequence fuel .start (g.flags.contains 'x') g rest before none
        else none
      | some (.content on off rest) =>
        match content fuel ((spaced || on.contains 'x') && !off.contains 'x') g rest with
        | some (w, g, rest) => add g ⟨.other, w⟩ rest
        | none => none
      | none => none
    | .plain '(' :: r =>
      match (g.opened none).bind fun g' => content fuel spaced g' r with
      | some (w, g', rest) => add (g'.close g.widths.length w) ⟨.other, w⟩ rest
      | none => none
    | .plain c :: r =>
      if spaced && isPassedBlank c then sequence fuel site spaced g r before last
      else if spaced && c = '#' then
        sequence fuel site spaced g ((r.dropWhile (· ≠ .plain '\n')).drop 1) before last
      else add g .single r
    | .half _ :: r => add g .single r

/-- Alternatives and the parenthesis that closes them. -/
def content : Nat → Bool → Groups → List Piece → Option Part
  | 0, _, _, _ => none
  | fuel + 1, spaced, g, us =>
    match alternatives fuel .inner spaced g us with
    | some (w, g, .plain ')' :: rest) => some (w, g, rest)
    | _ => none

/-- What matches if a condition holds, and what matches if it does not. -/
def condition : Nat → Bool → Groups → List Piece → Option Part
  | 0, _, _, _ => none
  | fuel + 1, spaced, g, us =>
    match sequence fuel .inner spaced g us .zero none with
    | some (w, g, .plain ')' :: rest) => some (w.optional, g, rest)
    | some (w, g, .plain '|' :: r) =>
      match sequence fuel .inner spaced g r .zero none with
      | some (v, g, .plain ')' :: rest) => some (w.either v, g, rest)
      | _ => none
    | _ => none

end

/-- Is the body of a regular expression well formed? -/
def isValid (body : List Char) : Bool :=
  match read? body with
  | none => false
  | some us =>
    match alternatives (4 * us.length + 4) .start false .none us with
    | some (_, g, []) => g.isConsistent
    | _ => false

end ScriptGrader.Script.RegexPattern
