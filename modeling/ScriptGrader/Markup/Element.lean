import ScriptGrader.Number.Layout

/-!
# Elements

A document is an element with attributes and content. Content is text and
elements in turn; the text behind an element is kept with it. `indent`
gives every element whose place is not fixed by text a line of its own.
-/

namespace ScriptGrader.Markup

/-- A name, in a namespace if it has one. -/
structure Name where
  space : Option String
  text : String
  deriving DecidableEq, Repr, Inhabited

namespace Name

/-- A name without a namespace. -/
def plain (text : String) : Name := ⟨none, text⟩

end Name

/-- An element: its name, attributes, the text before its first child, and
its children, each with the text behind it. -/
inductive Element
  | mk (name : Name) (attributes : List (Name × String)) (text : List Char)
      (children : List (Element × List Char))
  deriving Repr, Inhabited

namespace Element

def name : Element → Name
  | mk n _ _ _ => n

def attributes : Element → List (Name × String)
  | mk _ a _ _ => a

def text : Element → List Char
  | mk _ _ t _ => t

def children : Element → List (Element × List Char)
  | mk _ _ _ c => c

/-- An element with text and nothing else. -/
def leaf (name text : String) : Element := mk (.plain name) [] text.toList []

/-- An element with children and nothing else. -/
def branch (name : String) (children : List Element) : Element :=
  mk (.plain name) [] [] (children.map fun c => (c, []))

/-- The element with one more child at the end. -/
def append : Element → Element → Element
  | mk n a t cs, c => mk n a t (cs ++ [(c, [])])

/-! ## Indentation -/

/-- Does a text hold nothing but blanks? -/
def isBlank (cs : List Char) : Bool := cs.all Numeral.isBlank

/-- The end of a line, and two blanks for each level. -/
def lineStart (level : Nat) : List Char := '\n' :: List.replicate (2 * level) ' '

/-- A text, or what stands for it when it is blank. -/
def unlessBlank (cs standIn : List Char) : List Char := if isBlank cs then standIn else cs

mutual

/-- The element with its children on lines of their own, at a level. -/
def indentAt (level : Nat) : Element → Element
  | mk n a t [] => mk n a t []
  | mk n a t (c :: cs) =>
    mk n a (unlessBlank t (lineStart (level + 1))) (indentChildren level (c :: cs))

/-- Children on lines of their own; the parent's end tag goes on a line one level out. -/
def indentChildren (level : Nat) : List (Element × List Char) → List (Element × List Char)
  | [] => []
  | [(c, tail)] => [(indentAt (level + 1) c, unlessBlank tail (lineStart level))]
  | (c, tail) :: d :: r =>
    (indentAt (level + 1) c, unlessBlank tail (lineStart (level + 1))) ::
      indentChildren level (d :: r)

end

/-- The element with every child on a line of its own. -/
def indent (e : Element) : Element := indentAt 0 e

end Element
end ScriptGrader.Markup
