import ScriptGrader.Number.Layout
import ScriptGrader.Script.RegexPattern.Piece

/-!
# Groups of a regular expression

What a reader of a regular expression knows of its groups: how wide those
are that are complete, what they are called, and what the flags at the
start of the body say.
-/

namespace ScriptGrader.Script.RegexPattern

/-! ## Widths

How many characters a part can match. What stands before a place must have
one width only, and that must be below `Width.limit`. -/

/-- The fewest and the most characters that a part matches; without `most` there is no bound. -/
structure Width where
  least : Nat
  most : Option Nat
  deriving DecidableEq, Repr

namespace Width

def zero : Width := ⟨0, some 0⟩

def one : Width := ⟨1, some 1⟩

def append (a b : Width) : Width :=
  ⟨a.least + b.least, a.most.bind fun m => b.most.map (m + ·)⟩

def either (a b : Width) : Width :=
  ⟨min a.least b.least, a.most.bind fun m => b.most.map (max m ·)⟩

/-- The part may be left out. -/
def optional (a : Width) : Width := { a with least := 0 }

/-- Repeated; what matches nothing stays so however often it is repeated. -/
def repeated (w : Width) (least : Nat) (most : Option Nat) : Width :=
  let most := if w.most = some 0 ∨ most = some 0 then some 0 else w.most.bind fun m => most.map (m * ·)
  ⟨w.least * least, most⟩

/-- What stands before a place is shorter than this. -/
def limit : Nat := 0x80000000

/-- Is the width such that a match can be looked for backwards? -/
def isFixed (w : Width) : Bool := w.most = some w.least && w.least < limit

end Width
/-! ## Names -/

/-- Letters and marks that change when a text is put into its compatible form; no name holds them. -/
def isUnstable (c : Char) : Bool :=
  let n := c.toNat
  n == 0x37a || n == 0x2e2f || n == 0x309b || n == 0x309c || (0xfc5e ≤ n && n ≤ 0xfc63) ||
  n == 0xfdfa || n == 0xfdfb || (0xfe70 ≤ n && n ≤ 0xfe7e && n % 2 == 0)

/-- Letters that change when a text is put into its compatible form, into a mark and a letter. -/
def beginsUnstable (c : Char) : Bool :=
  let n := c.toNat
  n == 0xe33 || n == 0xeb3 || n == 0xff9e || n == 0xff9f

def isNamePart (c : Char) : Bool :=
  isIdentifierPart c && c ≠ '$' && c ≠ '\\' && c ≠ '\u200c' && c ≠ '\u200d' && !isUnstable c

def isNameStart (c : Char) : Bool := isIdentifierStart c && isNamePart c && !beginsUnstable c

/-- Is the text the name of a group? -/
def isName : List Char → Bool
  | [] => false
  | c :: r => isNameStart c && r.all isNamePart

/-! ## Flags -/

/-- The letters of flags. -/
def isFlag (c : Char) : Bool := ['i', 'm', 's', 'x', 'a', 'u', 't'].contains c

/-- What a group's flags make of it. -/
inductive FlagGroup
  /-- Flags for the whole body, which stand at its start. -/
  | whole (flags : List Char) (rest : List Piece)
  /-- Flags that hold in the group, and flags that do not. -/
  | content (on off : List Char) (rest : List Piece)

/-- The flags of a group, up to the mark that ends them. -/
def flags? (us : List Piece) : Option FlagGroup :=
  let letters (us : List Piece) : List Char × List Piece :=
    ((us.takeWhile (·.isPlain isFlag)).filterMap Piece.char?, us.dropWhile (·.isPlain isFlag))
  let (on, r) := letters us
  if on.contains 'a' && on.contains 'u' then none
  else
    match r with
    | .plain ')' :: rest => if on.isEmpty then none else some (.whole on rest)
    | .plain ':' :: rest => if on.isEmpty || on.contains 't' then none else some (.content on [] rest)
    | .plain '-' :: r =>
      let (off, r) := letters r
      match r with
      | .plain ':' :: rest =>
        if off.isEmpty || on.contains 't' || off.any (fun c => c = 'a' || c = 'u' || c = 't' || on.contains c)
        then none
        else some (.content on off rest)
      | _ => none
    | _ => none

/-! ## Groups -/

/-- What is known of a body up to a place in it. -/
structure Groups where
  /-- The widths of the groups, unknown while they are open. -/
  widths : List (Option Width)
  names : List (String × Nat)
  /-- How many groups there were when looking behind began. -/
  behind : Option Nat
  /-- The flags for the whole body. -/
  flags : List Char
  /-- The greatest number of a group that a condition asks for. -/
  asked : Nat
  /-- Is a part repeated? -/
  repeats : Bool

namespace Groups

def none : Groups := ⟨[], [], .none, [], 0, false⟩

/-- The width of a group that is complete. -/
def width? (g : Groups) (n : Nat) : Option Width :=
  match n with
  | 0 => .none
  | n + 1 => (g.widths[n]?).join

/-- Does a group that looking behind may ask for have this number? -/
def isKnownBehind (g : Groups) (n : Nat) : Bool :=
  match g.behind with
  | .none => true
  | some before => (g.width? n).isSome && n ≤ before

/-- The width of a group that may be referred to. -/
def closed? (g : Groups) (n : Nat) : Option Width :=
  if g.isKnownBehind n then g.width? n else .none

def opened (g : Groups) (name : Option String) : Option Groups :=
  match name with
  | .none => some { g with widths := g.widths ++ [.none] }
  | some s =>
    if g.names.any (·.1 = s) then .none
    else some { g with widths := g.widths ++ [.none], names := (s, g.widths.length + 1) :: g.names }

def close (g : Groups) (n : Nat) (w : Width) : Groups := { g with widths := g.widths.set n (some w) }

/-- The group that a condition asks for, by name or by number. One with a number may come later. -/
def condition? (g : Groups) (text : List Char) : Option Groups :=
  if isName text then
    match g.names.lookup (String.ofList text) with
    | some n => if g.isKnownBehind n then some g else .none
    | .none => .none
  else
    match Numeral.int? 10 (String.ofList text) with
    | some (.ofNat n) =>
      if n ≠ 0 && g.isKnownBehind n then some { g with asked := max g.asked n } else .none
    | _ => .none

/-- Do flags, conditions and repetitions go together? -/
def isConsistent (g : Groups) : Bool :=
  g.asked ≤ g.widths.length && !(g.flags.contains 'a' && g.flags.contains 'u') &&
    !(g.flags.contains 't' && g.repeats)

end Groups
end ScriptGrader.Script.RegexPattern
