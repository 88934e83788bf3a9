import ScriptGrader.Text.Charset.Unicode
import ScriptGrader.Web.Address

/-!
# Redirects

An answer may name another place to ask. Nothing is asked there, but the
place has to make sense: it is put together from what the answer names and
from the address that was asked.
-/

namespace ScriptGrader.Web

/-- Why the place that an answer names makes no sense. -/
inductive RedirectError
  | location (e : AddressError)
  | address (e : AddressError)
  /-- A host in Punycode that stands for no name. -/
  | host (e : HostName.LabelFault)
  deriving DecidableEq, Repr

namespace Redirect

/-- Check the host of an address as it would be shown. -/
def checkHost (a : Address) : Except RedirectError Unit :=
  (HostName.checkShown a.host).mapError .host

/-- A location with a scheme and no host is on the host that was asked. -/
def atHost (asked a : Address) : Except RedirectError Address := do
  if a.scheme.isEmpty then return a
  else
    checkHost a
    if !a.host.isEmpty then return a
    else
      checkHost asked
      (a.withHost asked.host).mapError .address

/-- A location without a scheme is seen from the address that was asked. -/
def seenFrom (asked a : Address) : Except RedirectError Address :=
  if a.isAbsolute then .ok a else (Address.ofText? (asked.join a)).mapError .address

/-- The fragment of the address that was asked stays where there is no other one. -/
def keepFragment (asked a : Address) : Except RedirectError Address :=
  let fragment := asked.fragment.getD []
  if fragment.isEmpty || !(a.fragment.getD []).isEmpty then .ok a
  else (a.withFragment (Text.Charset.ofUtf8 (unquotedBytes fragment))).mapError .address

/-- Check the place that an answer names. -/
def check (asked : Address) (location : String) : Except RedirectError Unit := do
  let a ← (Address.ofText? location).mapError .location
  let a ← atHost asked a
  let a ← seenFrom asked a
  let a ← keepFragment asked a
  if a.scheme = asked.scheme then
    checkHost a
    checkHost asked
  else
    checkHost asked
    checkHost a

end Redirect
end ScriptGrader.Web
