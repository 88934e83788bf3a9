import ScriptGrader.Markup.Scan

/-!
# The declaration of a document

The first line of a document may give its version and encoding and say
whether it stands alone, in this order. A declaration that is not well
formed is refused at the first character that does not fit.
-/

namespace ScriptGrader.Markup

/-- What a declaration says. -/
structure Declaration where
  /-- The encoding, with the rest of the declaration that its name begins. -/
  encoding : Option (String × List Char)
  standalone : Bool
  deriving Repr

namespace Declaration

/-- A setting in a declaration, with the rests that its name and its value begin. -/
structure Setting where
  name : String
  nameRest : List Char
  value : String
  valueRest : List Char
  deriving Repr

def isValueChar (c : Char) : Bool := isLetter c || isDigit c || c = '.' || c = '-' || c = '_'

/-- A value between quotes. -/
def quoted? : List Char → Except (List Char) (String × List Char × List Char)
  | q :: r =>
    if q = '"' ∨ q = '\'' then
      let v := r.takeWhile isValueChar
      match r.dropWhile isValueChar with
      | c :: rest => if c = q then .ok (String.ofList v, r, rest) else .error (c :: rest)
      | [] => .error []
    else .error (q :: r)
  | [] => .error []

/-- The next setting, if there is one, and the rest; an error is the rest that does not fit. -/
def setting? (t : List Char) : Except (List Char) (Option Setting × List Char) :=
  match t, t.dropWhile isSpace with
  | [], _ => .ok (none, [])
  | c :: _, u =>
    if !isSpace c then .error t
    else if u.isEmpty then .ok (none, [])
    else
      let isName := fun c : Char => c ≠ '=' && !isSpace c && c.toNat < 128
      let name := u.takeWhile isName
      match (u.dropWhile isName).dropWhile isSpace with
      | '=' :: r =>
        if name.isEmpty then .error u
        else do
          let (value, valueRest, rest) ← quoted? (r.dropWhile isSpace)
          return (some ⟨String.ofList name, u, value, valueRest⟩, rest)
      | r => .error r

/-- The end of a declaration, with what is known of it. -/
def standalone? (encoding : Option (String × List Char)) :
    Option Setting × List Char → Except (List Char) Declaration
  | (none, _) => .ok ⟨encoding, false⟩
  | (some s, rest) =>
    if s.name ≠ "standalone" then .error s.nameRest
    else if s.value ≠ "yes" ∧ s.value ≠ "no" then .error s.valueRest
    else
      match rest.dropWhile isSpace with
      | [] => .ok ⟨encoding, s.value = "yes"⟩
      | r => .error r

/-- The declaration with a given text; an error is the rest that does not fit. -/
def parse? (t : List Char) : Except (List Char) Declaration := do
  match ← setting? t with
  | (none, _) => .error t
  | (some s, rest) =>
    if s.name ≠ "version" then .error s.nameRest
    else
      let next ← setting? rest
      match next with
      | (some e, rest) =>
        if e.name = "encoding" then
          match e.value.toList with
          | c :: _ =>
            if isLetter c then standalone? (some (e.value, e.valueRest)) (← setting? rest)
            else .error e.valueRest
          | [] => .error e.valueRest
        else standalone? none next
      | _ => standalone? none next

end Declaration
end ScriptGrader.Markup
