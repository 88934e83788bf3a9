import ScriptGrader.Text.Charset.Escapes
import ScriptGrader.Text.Utf8

/-!
# Headers

What an answer says of itself: names with values. They are sent as bytes,
and are read as UTF-8 if all of them are that, and byte by byte if not. The
case of a name does not count, and values of one name are put together.
-/

namespace ScriptGrader.Web

/-- A header as it is sent. -/
structure Header where
  name : List UInt8
  value : List UInt8
  deriving DecidableEq, Repr

/-- The header of a name and a value. -/
def Header.ofText (name value : String) : Header := ⟨Text.encode name, Text.encode value⟩

/-- The headers of an answer, with names in lower case. -/
abbrev Headers := List (String × String)

namespace Headers

/-- Headers as texts, if all of them are UTF-8. -/
def decoded? (hs : List Header) : Except Text.Utf8Error Headers :=
  hs.mapM fun h => do return (← Text.decode h.name, ← Text.decode h.value)

/-- Headers as texts, each byte a character. -/
def byteByByte (hs : List Header) : Headers :=
  let text bytes := String.ofList (Text.Charset.ofNumbers bytes)
  hs.map fun h => (text h.name, text h.value)

/-- The headers that were sent. -/
def ofSent (hs : List Header) : Headers :=
  let texts := match decoded? hs with
    | .ok texts => texts
    | .error _ => byteByByte hs
  texts.map fun (name, value) => (String.ofList (name.toList.map Char.toLower), value)

/-- The values of a name. -/
def values (hs : Headers) (name : String) : List String :=
  (hs.filter fun h => h.1 = name).map (·.2)

/-- The value of a name, if it has any. -/
def value? (hs : Headers) (name : String) : Option String :=
  match hs.values name with
  | [] => none
  | vs => some (", ".intercalate vs)

end Headers
end ScriptGrader.Web
