import ScriptGrader.Markup.Element

/-!
# Writing markup

An element as text. Namespaces are declared on the root, with a label for
each: well-known ones have labels of their own, the others are numbered in
the order of the document.
-/

namespace ScriptGrader.Markup

/-! ## Labels of namespaces -/

/-- The namespace that a place on the web names. -/
def webSpace (place : String) : String := "http://" ++ place

/-- The namespace of the label `xml`, which needs no declaration. -/
def xmlSpace : String := webSpace "www.w3.org/XML/1998/namespace"

/-- Namespaces that have labels of their own. -/
def knownLabels : List (String × String) :=
  [(xmlSpace, "xml"), (webSpace "www.w3.org/1999/xhtml", "html"),
    (webSpace "www.w3.org/1999/02/22-rdf-syntax-ns#", "rdf"),
    (webSpace "schemas.xmlsoap.org/wsdl/", "wsdl"), (webSpace "www.w3.org/2001/XMLSchema", "xs"),
    (webSpace "www.w3.org/2001/XMLSchema-instance", "xsi"),
    (webSpace "purl.org/dc/elements/1.1/", "dc")]

/-- The labels with one for the namespace of a name. -/
def addLabel (labels : List (String × String)) (n : Name) : List (String × String) :=
  match n.space with
  | none => labels
  | some uri =>
    if (labels.lookup uri).isSome || uri = xmlSpace then labels
    else labels ++ [(uri, (knownLabels.lookup uri).getD s!"ns{labels.length}")]

namespace Element

mutual

/-- The names in an element, in the order of the document. -/
def names : Element → List Name
  | mk n a _ cs => n :: a.map (·.1) ++ childNames cs

def childNames : List (Element × List Char) → List Name
  | [] => []
  | (c, _) :: r => names c ++ childNames r

end

/-- The labels for the namespaces in an element. -/
def labels (e : Element) : List (String × String) := e.names.foldl addLabel []

end Element

/-! ## Text -/

/-- A character of text. -/
def escapeText : Char → List Char
  | '&' => "&amp;".toList
  | '<' => "&lt;".toList
  | '>' => "&gt;".toList
  | c => [c]

/-- A character of an attribute's value. -/
def escapeValue : Char → List Char
  | '"' => "&quot;".toList
  | '\r' => "&#13;".toList
  | '\n' => "&#10;".toList
  | '\t' => "&#09;".toList
  | c => escapeText c

/-- A name with the label of its namespace. -/
def labelled (labels : List (String × String)) (n : Name) : List Char :=
  match n.space with
  | none => n.text.toList
  | some uri =>
    match if uri = xmlSpace then some "xml" else labels.lookup uri with
    | some l => l.toList ++ ':' :: n.text.toList
    | none => n.text.toList

/-- An attribute as it is written. -/
def attributeText (name : List Char) (value : String) : List Char :=
  ' ' :: name ++ '=' :: '"' :: value.toList.flatMap escapeValue ++ ['"']

/-- The declarations of namespaces, by label. -/
def declarations (labels : List (String × String)) : List Char :=
  (labels.mergeSort fun a b => a.2 ≤ b.2).flatMap fun (uri, l) =>
    attributeText ("xmlns:".toList ++ l.toList) uri

/-- The attributes of an element as they are written. -/
def attributesText (labels : List (String × String)) (attributes : List (Name × String)) : List Char :=
  attributes.flatMap fun (n, v) => attributeText (labelled labels n) v

namespace Element

mutual

/-- An element as it is written; `declared` stands behind the name in its tag. -/
def render (labels : List (String × String)) (declared : List Char) : Element → List Char
  | mk n a t cs =>
    let tag := labelled labels n
    let opening := '<' :: tag ++ declared ++ attributesText labels a
    if t.isEmpty && cs.isEmpty then opening ++ " />".toList
    else
      opening ++ '>' :: t.flatMap escapeText ++ renderChildren labels cs ++
        '<' :: '/' :: tag ++ ['>']

/-- Children with the texts behind them. -/
def renderChildren (labels : List (String × String)) : List (Element × List Char) → List Char
  | [] => []
  | (c, tail) :: r => render labels [] c ++ tail.flatMap escapeText ++ renderChildren labels r

end

/-- The first line of a written document. -/
def heading : List Char := "<?xml version='1.0' encoding='utf-8'?>\n".toList

/-- The document that has the element as its root. -/
def document (e : Element) : List Char :=
  let labels := e.labels
  heading ++ e.render labels (declarations labels)

end Element
end ScriptGrader.Markup
