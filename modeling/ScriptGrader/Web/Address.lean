import ScriptGrader.Web.Host

/-!
# Addresses

The address of a service: a scheme, an authority, a path, and behind them a
query and a fragment. Reading an address brings it into a normal form, in
which the same place is always written the same way.
-/

namespace ScriptGrader.Web

/-- Why a text is no address. -/
inductive AddressError
  | tooLong
  /-- A component that is put into an address is too long. -/
  | componentTooLong (component : String)
  /-- A component that is put into an address cannot be printed. -/
  | unprintableIn (component : String) (c : Char) (position : Nat)
  | unprintable (c : Char) (position : Nat)
  | host (e : HostError)
  | port (text : String)
  | pathWithoutSlash
  | pathWithSlashes
  | pathWithColon
  deriving DecidableEq, Repr

namespace AddressError

def message : AddressError → String
  | tooLong => "URL too long"
  | unprintable c n =>
    s!"Invalid non-printable ASCII character in URL, {Text.quoted (String.singleton c)} at position {n}."
  | componentTooLong component => s!"URL component '{component}' too long"
  | unprintableIn component c n =>
    s!"Invalid non-printable ASCII character in URL {component} component, {Text.quoted (String.singleton c)} at position {n}."
  | host e => e.message
  | port t => s!"Invalid port: {Text.quoted t}"
  | pathWithoutSlash => "For absolute URLs, path must be empty or begin with '/'"
  | pathWithSlashes => "Relative URLs cannot have a path starting with '//'"
  | pathWithColon => "Relative URLs cannot have a path starting with ':'"

end AddressError

/-- An address in its normal form. -/
structure Address where
  scheme : List Char
  user : List Char
  host : List Char
  port : Option Int
  path : List Char
  query : Option (List Char)
  fragment : Option (List Char)
  deriving DecidableEq, Repr

namespace Address

/-! ## Writing -/

/-- The user, the host and the port. -/
def authority (a : Address) : List Char :=
  (if a.user.isEmpty then [] else a.user ++ ['@']) ++
    (if a.host.contains ':' then '[' :: a.host ++ [']'] else a.host) ++
    (match a.port with
     | some n => ':' :: (Layout.int n).toList
     | none => [])

def text (a : Address) : String :=
  let written := a.authority
  String.ofList <|
    (if a.scheme.isEmpty then [] else a.scheme ++ [':']) ++
    (if written.isEmpty then [] else '/' :: '/' :: written) ++ a.path ++
    (a.query.elim [] ('?' :: ·)) ++ (a.fragment.elim [] ('#' :: ·))

/-! ## Reading -/

/-- The longest address, in characters. -/
def lengthLimit : Nat := 65536

def isPrintable (c : Char) : Bool := 0x20 ≤ c.toNat && c.toNat < 0x7f

/-- The printable characters without some. -/
def without (signs : String) (c : Char) : Bool := isPrintable c && !signs.toList.contains c

def fragmentSafe : Char → Bool := without " \"<>`"
def querySafe : Char → Bool := without " \"#<>"
def pathSafe : Char → Bool := without " \"#<>?`\x7b\x7d"
def userSafe : Char → Bool := without " \"#<>?`\x7b\x7d/;=@[\\]^|"

/-- The scheme in front of an address, and the rest. A colon alone stands for no scheme. -/
def splitScheme (cs : List Char) : List Char × List Char :=
  let isLetter := fun c : Char => ('a' ≤ c && c ≤ 'z') || ('A' ≤ c && c ≤ 'Z')
  let isSchemeChar := fun c : Char => isLetter c || Host.isDecimal c || c = '+' || c = '.' || c = '-'
  let scheme := cs.takeWhile isSchemeChar
  match cs.dropWhile isSchemeChar with
  | ':' :: r => if scheme.isEmpty || scheme.head?.any isLetter then (scheme, r) else ([], cs)
  | _ => ([], cs)

/-- The authority in front of the rest of an address. -/
def splitAuthority : List Char → List Char × List Char
  | '/' :: '/' :: r =>
    let isInside := fun c : Char => c ≠ '/' && c ≠ '?' && c ≠ '#'
    (r.takeWhile isInside, r.dropWhile isInside)
  | r => ([], r)

/-- The user, the host and the port of an authority. A host in brackets may hold colons. -/
def splitHost (cs : List Char) : List Char × List Char × List Char :=
  let behind := (cs.reverse.takeWhile (· ≠ '@')).reverse
  let user := (cs.take (cs.length - behind.length)).dropLast
  let bracketed := behind.reverse.dropWhile (· ≠ ']')
  let (host, rest) :=
    if behind.head? = some '[' ∧ !bracketed.isEmpty then
      (bracketed.reverse, behind.drop bracketed.length)
    else (behind.takeWhile fun c => c ≠ ':', behind.dropWhile fun c => c ≠ ':')
  (user, host, match rest with
    | ':' :: r => r
    | r => r)

/-- The ports that schemes have when none is given. -/
def standardPort? (scheme : List Char) : Option Int :=
  [("ftp", 21), ("http", 80), ("https", 443), ("ws", 80), ("wss", 443)].lookup (String.ofList scheme)

/-- A port, unless it is the standard one. -/
def port? (scheme port : List Char) : Except AddressError (Option Int) :=
  let text := String.ofList port
  if port.isEmpty then .ok none
  else if Layout.digitLimit < port.countP Numeral.isDigit then .error (.port text)
  else
    match Numeral.int? 10 text with
    | none => .error (.port text)
    | some n => .ok (if standardPort? scheme = some n then none else some n)

/-- Components of a path without dots: two dots take back the component before them. -/
def flatten (parts : List (List Char)) : List (List Char) :=
  (parts.foldl (fun done p =>
    if p = ['.'] then done
    else if p = ['.', '.'] then (if done = [[]] then done else done.tail)
    else p :: done) []).reverse

/-- A path without components that are dots. -/
def normalPath (path : List Char) : List Char :=
  let parts := path.splitOn '/'
  if parts.contains ['.'] || parts.contains ['.', '.'] then ['/'].intercalate (flatten parts) else path

/-- Does a path fit behind what is in front of it? -/
def checkPath (hasScheme hasAuthority : Bool) (path : List Char) : Except AddressError Unit :=
  if hasAuthority then
    if path.isEmpty || path.head? = some '/' then .ok () else .error .pathWithoutSlash
  else if hasScheme then .ok ()
  else if path.take 2 = ['/', '/'] then .error .pathWithSlashes
  else if path.head? = some ':' then .error .pathWithColon
  else .ok ()

/-- The first character that is ASCII and cannot be printed. -/
def unprintable? (cs : List Char) : Option (Char × Nat) :=
  (cs.zipIdx.find? fun (c, _) => c.toNat < 0x80 && !isPrintable c)

/-- The address that a text is. -/
def ofText? (s : String) : Except AddressError Address := do
  let cs := s.toList
  if lengthLimit < cs.length then throw .tooLong
  if let some (c, n) := unprintable? cs then throw (.unprintable c n)
  let (scheme, rest) := splitScheme cs
  let (written, rest) := splitAuthority rest
  let isPath := fun c : Char => c ≠ '?' && c ≠ '#'
  let path := rest.takeWhile isPath
  let rest := rest.dropWhile isPath
  let query := match rest with
    | '?' :: r => some (r.takeWhile (· ≠ '#'))
    | _ => none
  let fragment := match rest.dropWhile (· ≠ '#') with
    | _ :: r => some r
    | [] => none
  let (user, host, port) := splitHost written
  let user := quote userSafe user
  let host ← (Host.ofText? host).mapError .host
  let port ← port? scheme port
  let hasScheme := !scheme.isEmpty
  let hasAuthority := !user.isEmpty || !host.isEmpty || port.isSome
  checkPath hasScheme hasAuthority path
  let path := if hasScheme || hasAuthority then normalPath path else path
  return {
    scheme := scheme.map Char.toLower
    user := user
    host := host
    port := port
    path := quote pathSafe path
    query := query.map (quote querySafe)
    fragment := fragment.map (quote fragmentSafe) }

/-! ## Putting addresses together -/

/-- Does the address name a place by itself? -/
def isAbsolute (a : Address) : Bool := !a.scheme.isEmpty && !a.host.isEmpty

/-- Check the lengths of the components of an address that is put together anew. -/
def checkComponents (a : Address) : Except AddressError Unit :=
  [("scheme", a.scheme), ("authority", a.authority), ("path", a.path),
    ("query", a.query.getD []), ("fragment", a.fragment.getD [])].forM fun (name, text) =>
      if lengthLimit < text.length then throw (.componentTooLong name) else pure ()

/-- The address with another host. -/
def withHost (a : Address) (host : List Char) : Except AddressError Address := do
  a.checkComponents
  checkPath (!a.scheme.isEmpty) (!host.isEmpty) a.path
  return { a with host := host }

/-- The address with another fragment, which is not quoted yet. -/
def withFragment (a : Address) (fragment : List Char) : Except AddressError Address := do
  ({ a with fragment := none }).checkComponents
  if lengthLimit < fragment.length then throw (.componentTooLong "fragment")
  if let some (c, n) := unprintable? fragment then throw (.unprintableIn "fragment" c n)
  return { a with fragment := some (quote fragmentSafe fragment) }

/-- The schemes in which an address may leave out what another one has in front. -/
def hierarchicalSchemes : List String :=
  ["ftp", "http", "gopher", "nntp", "imap", "wais", "file", "https", "shttp", "mms", "prospero",
    "rtsp", "rtspu", "sftp", "svn", "svn+ssh", "ws", "wss"]

/-- The path that an address has, seen from the path of another one. -/
def joinPath (base path : List Char) : List Char :=
  let front := base.splitOn '/'
  let front := if front.getLast? = some [] then front else front.dropLast
  let steps := path.splitOn '/'
  let segments :=
    if path.head? = some '/' then steps
    else
      let all := front ++ steps
      all.take 1 ++ ((all.drop 1).dropLast.filter (!·.isEmpty)) ++ (all.drop 1).drop (all.length - 2)
  let kept := segments.foldl (fun done s =>
    if s = ['.', '.'] then done.tail else if s = ['.'] then done else s :: done) []
  let isOpen := segments.getLast? = some ['.'] || segments.getLast? = some ['.', '.']
  let joined := (['/'] : List Char).intercalate (if isOpen then [] :: kept else kept).reverse
  if joined.isEmpty then ['/'] else joined

/-- The text of an address without a scheme, seen from another one. -/
def join (base a : Address) : String :=
  if !hierarchicalSchemes.contains (String.ofList base.scheme) then a.text
  else if !a.authority.isEmpty then ({ a with scheme := base.scheme }).text
  else
    let front := { base with fragment := a.fragment }
    if a.path.isEmpty then
      if (a.query.getD []).isEmpty then front.text else ({ front with query := a.query }).text
    else ({ front with path := joinPath base.path a.path, query := a.query }).text

/-! ## Where a request goes -/

/-- The address that a request goes to. One that names no place by itself
leaves only its path and its query. -/
def target (a : Address) : Address :=
  if a.isAbsolute then a
  else
    let path := '/' :: a.path.dropWhile (· = '/')
    ⟨[], [], [], none, path, a.query, none⟩

/-- Check that a request may go to the address. One that names no place by
itself was put together anew. -/
def checkRequest (a : Address) : Except AddressError Unit :=
  if a.isAbsolute then .ok () else a.checkComponents

end Address
end ScriptGrader.Web
