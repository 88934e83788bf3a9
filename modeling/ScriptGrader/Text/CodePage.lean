/-!
# Code pages

A code page writes each character as one byte. Up to a first byte the
characters are those with the same number; from there on a page has its
own, or none.
-/

namespace ScriptGrader.Text

/-- A name in lower case, with what is no letter, digit or full stop as one underscore. -/
def plainName (name : String) : String :=
  "_".intercalate
    ((name.toLower.map fun c => if c.isAlphanum || c = '.' then c else ' ').splitOn " " |>.filter (· ≠ ""))

/-- Names of an encoding, all in plain form. -/
structure NameGroup where
  names : List String
  /-- Names whose underscores may also be written as full stops. -/
  aliases : List String
  deriving Repr

namespace NameGroup

/-- Is the encoding called so? The name is in plain form. -/
def has (g : NameGroup) (plain : String) : Bool :=
  g.names.contains plain || g.aliases.contains plain ||
    g.aliases.contains (plain.map fun c => if c = '.' then '_' else c)

end NameGroup

/-- A way to write characters as single bytes. -/
structure CodePage extends NameGroup where
  /-- The first byte that the rows tell of. -/
  first : Nat
  /-- The characters from that byte on, with U+FFFD for none. -/
  rows : List String
  deriving Repr

namespace CodePage

/-- The character of each byte that has one. -/
def chars (p : CodePage) : Array (Option Char) :=
  let own := (List.range p.first).map fun n => some (Char.ofNat n)
  let listed := p.rows.flatMap fun row => row.toList.map fun c => if c = '\ufffd' then none else some c
  (own ++ listed).toArray

end CodePage
end ScriptGrader.Text
