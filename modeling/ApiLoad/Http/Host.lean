import ApiLoad.Http.Host.Address
import ApiLoad.Http.Host.Name
import ApiLoad.Http.Percent

/-!
# Hosts

The host of a URL is an address of version 6 in brackets, an address of version 4 or a name. Where the
scheme does not know hosts, names are left as they are.
-/
set_option autoImplicit false

namespace ApiLoad.Http.Host

def bracketed? (text : List Char) : Option (List Char) :=
  if text.getLast? = some ']' then
    (address6? text.dropLast).map fun pieces => '[' :: text6 pieces ++ [']']
  else none

def named? (text : List Char) : Option (List Char) := do
  let decoded ← Text.Utf8.decode? (Percent.decode text)
  let name ← nameToAscii? decoded.toList
  if name = [] then none
  else if endsInNumber name then (address4? name).map text4
  else pure name

def parse? : List Char → Option (List Char)
  | '[' :: rest => bracketed? rest
  | text => named? text

/-- Percent signs and controls are let stand in a host of which the scheme knows nothing. -/
def isForbiddenOpaque (c : Char) : Bool :=
  isForbidden c && c != '%' && !(Percent.isControl c && c != '\x00')

def parseOpaque? : List Char → Option (List Char)
  | '[' :: rest => bracketed? rest
  | text =>
    if text.any isForbiddenOpaque then none else some (Percent.encode Percent.isControl text)

end ApiLoad.Http.Host
