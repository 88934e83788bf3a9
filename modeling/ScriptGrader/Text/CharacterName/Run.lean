/-!
# Runs of names

The names of characters that follow one another share most of their words,
so each name is written as what is new in it. A small letter in front says
how many words it takes from the name before: `a` none, `b` one. Names have
no small letters of their own.
-/

namespace ScriptGrader.Text.CharacterName

/-- The first words of a name, each with the blank behind it. -/
def firstWords : Nat → List Char → List Char
  | 0, _ => []
  | _ + 1, [] => []
  | n + 1, ' ' :: r => ' ' :: firstWords n r
  | n + 1, c :: r => c :: firstWords (n + 1) r

/-- The parts of a text that small letters begin, each with the number of its letter. -/
def parts (text : List Char) : List (Nat × List Char) :=
  (text.foldr (fun c (part, parts) =>
    if c.isLower then ([], (c.toNat - 'a'.toNat, part) :: parts) else (c :: part, parts)) ([], [])).2

/-- The names that parts stand for, behind a name. -/
def expand (before : List Char) : List (Nat × List Char) → List (List Char)
  | [] => []
  | (words, part) :: r =>
    let name := firstWords words before ++ part
    name :: expand name r

/-- The names of characters that follow one another, in lines. -/
structure Run where
  first : Nat
  lines : List String

namespace Run

def names (r : Run) : List (List Char) := expand [] (parts (r.lines.flatMap String.toList))

/-- The code point of the character with a name. -/
def code? (r : Run) (name : List Char) : Option Nat :=
  (r.names.findIdx? (· = name)).map (r.first + ·)

end Run
end ScriptGrader.Text.CharacterName
