import ApiLoad.Http.Host
import ApiLoad.Http.Path

/-!
# URLs

An absolute URL in its normal form: the scheme and the host in lower case, no port where it is the
scheme's own, dot segments resolved, and everything that a part does not admit percent-encoded.
-/
set_option autoImplicit false

namespace ApiLoad.Http

structure User where
  name : List Char
  password : Option (List Char)
deriving DecidableEq, Repr

structure Url where
  scheme : String
  user : Option User := none
  host : Option (List Char)
  port : Option Nat := none
  path : List Char
  query : Option (List Char)
  fragment : Option (List Char)
deriving DecidableEq, Repr

namespace User

def parse? (text : List Char) : Option User :=
  let encode := Percent.encode Percent.inUser
  let (name, password) := Text.before (· == ':') text
  let password := password.drop 1
  if name = [] ∧ password = [] then none
  else some ⟨encode name, if password = [] then none else some (encode password)⟩

def text (user : User) : List Char :=
  user.name ++ ((user.password.map (':' :: ·)).getD []) ++ ['@']

def isReadable (part : List Char) : Bool := (Text.Utf8.decode? (Percent.decode part)).isSome

/-- A call can name the user in its head: the name is a text, and it or a password that is one is there. -/
def canBeNamed (user : User) : Bool :=
  isReadable user.name && (user.name != [] || (user.password.map isReadable).getD false)

def credentials (user : User) : List UInt8 :=
  let password := (user.password.filter isReadable).getD []
  Percent.decode user.name ++ 0x3A :: Percent.decode password

end User

namespace Url

def defaultPort? : String → Option Nat
  | "http" | "ws" => some 80
  | "https" | "wss" => some 443
  | "ftp" => some 21
  | _ => none

def isSpecial (scheme : String) : Bool := (defaultPort? scheme).isSome || scheme == "file"

def trim (text : List Char) : List Char :=
  let outer (c : Char) : Bool := c.toNat ≤ 0x20
  ((text.dropWhile outer).reverse.dropWhile outer).reverse

def isSchemeChar (c : Char) : Bool := c.isAlphanum || c == '+' || c == '-' || c == '.'

def scheme? (text : List Char) : Option (String × List Char) :=
  let (name, rest) := Text.before (· == ':') text
  let name := Path.withoutGaps name
  if rest ≠ [] ∧ (name.head?.map Char.isAlpha).getD false ∧ name.all isSchemeChar then
    some (String.ofList (name.map Char.toLower), rest.drop 1)
  else none

def endsAuthority (special : Bool) (c : Char) : Bool :=
  Path.isSlash special c || c == '?' || c == '#'

/-- The user before the last at sign, and what follows it. -/
def splitUser (authority : List Char) : Option (List Char) × List Char :=
  let (host, rest) := Text.before (· == '@') authority.reverse
  if rest = [] then (none, authority) else (some (rest.drop 1).reverse, host.reverse)

/-- Splits at the colon before a port, which does not stand inside brackets. -/
def splitPort (authority : List Char) : List Char × Option (List Char) :=
  match authority with
  | '[' :: _ =>
    let inside := authority.takeWhile (· != ']')
    match authority.drop inside.length with
    | ']' :: ':' :: port => (inside ++ [']'], some port)
    | rest => (inside ++ rest, none)
  | _ =>
    match Text.before (· == ':') authority with
    | (host, _ :: port) => (host, some port)
    | (host, []) => (host, none)

/-- A port of at most 16 bits. An empty one and the scheme's own are left out. -/
def port? (scheme : String) : Option (List Char) → Option (Option Nat)
  | none | some [] => some none
  | some digits =>
    let n := Decimal.valueOf digits
    if !digits.all Char.isDigit ∨ 65535 < n then none
    else some (if defaultPort? scheme = some n then none else some n)

def splitTail (text : List Char) : List Char × Option (List Char) × Option (List Char) :=
  let (main, fragment) := Text.before (· == '#') text
  let (path, query) := Text.before (· == '?') main
  (path, if query = [] then none else some (query.drop 1),
    if fragment = [] then none else some (fragment.drop 1))

def withTail (url : Url) (tail : List Char) : Url :=
  let (_, query, fragment) := splitTail (Path.withoutGaps tail)
  { url with
    query := query.map (Percent.encode (Percent.inQuery (isSpecial url.scheme)))
    fragment := fragment.map (Percent.encode Percent.inFragment) }

def afterSlash (special : Bool) (tail : List Char) : List Char :=
  if (tail.head?.map (Path.isSlash special)).getD false then tail.drop 1 else tail

def withHost? (scheme : String) (text : List Char) : Option Url := do
  let (authority, tail) :=
    Text.before (endsAuthority true) (text.dropWhile (Path.isSlash true))
  let (user, hostAndPort) := splitUser authority
  let (hostText, portText) := splitPort hostAndPort
  let host ← Host.parse? hostText
  let port ← port? scheme portText
  let path := Path.absolute true (splitTail (afterSlash true tail)).1
  pure (withTail ⟨scheme, user.bind User.parse?, some host, port, path, none, none⟩ tail)

def ofFile (host tail : List Char) : Url :=
  let (path, onDrive) := Path.file (splitTail tail).1
  withTail ⟨"file", none, some (if onDrive then [] else host), none, path, none, none⟩ tail

def slash? (text : List Char) : Option (List Char) :=
  match text.dropWhile Path.isGap with
  | c :: rest => if Path.isSlash true c then some rest else none
  | [] => none

/-- The URL of a file, after its colon. What stands where a host should be may be a drive. -/
def file? (text : List Char) : Option Url :=
  match slash? text with
  | none => some (ofFile [] text)
  | some afterOne =>
    match slash? afterOne with
    | none => some (ofFile [] afterOne)
    | some afterTwo =>
      let (hostText, tail) := Text.before (endsAuthority true) afterTwo
      let hostText := Path.withoutGaps hostText
      if Path.isDrive hostText then some (ofFile [] afterTwo)
      else if hostText = [] then some (ofFile [] tail)
      else (Host.parse? hostText).map fun host =>
        if host = "localhost".toList then ofFile [] tail
        else ofFile host ((slash? tail).getD tail)

/-- The URL of any other scheme with an authority. Only a lone host can be empty. -/
def withAuthority? (scheme : String) (text : List Char) : Option Url := do
  let (authority, tail) := Text.before (endsAuthority false) text
  let (user, hostAndPort) := splitUser authority
  let (hostText, portText) := splitPort hostAndPort
  let host ← Host.parseOpaque? hostText
  let (portText, more) := match portText with
    | none => (none, [])
    | some text =>
      let (digits, more) := Text.before (· == '\\') text
      (some digits, more)
  let port ← port? scheme portText
  let user' := user.bind User.parse?
  if host = [] ∧ (portText.isSome ∨ user'.isSome ∨ (user = some [] ∧ tail ≠ [])) then none
  else
    let path := (splitTail (more ++ tail)).1
    let path := if path = [] then [] else Path.absolute false (afterSlash false path)
    pure (withTail ⟨scheme, user', some host, port, path, none, none⟩ tail)

def ofOther? (scheme : String) (text : List Char) : Option Url :=
  match text with
  | '/' :: '/' :: rest => withAuthority? scheme rest
  | '/' :: rest =>
    some (withTail ⟨scheme, none, none, none, Path.absolute false (splitTail rest).1, none, none⟩ rest)
  | _ =>
    let path := Percent.encode Percent.isControl (splitTail text).1
    some (withTail ⟨scheme, none, none, none, path, none, none⟩ text)

def parse? (text : String) : Option Url := do
  let (scheme, rest) ← scheme? (trim text.toList)
  if scheme = "file" then file? rest
  else if isSpecial scheme then withHost? scheme (Path.withoutGaps rest)
  else ofOther? scheme (Path.withoutGaps rest)

def authority (url : Url) : List Char :=
  url.host.getD [] ++ (url.port.map fun n => ':' :: Decimal.digitsOf n).getD []

def target (url : Url) : List Char := url.path ++ (url.query.map ('?' :: ·)).getD []

/-- What stands before the path. Without a host a path that starts with two slashes must not look like
one. -/
def lead (url : Url) : List Char :=
  if url.host.isSome then
    '/' :: '/' :: (url.user.map User.text).getD [] ++ url.authority
  else if url.path.take 2 = ['/', '/'] then ['/', '.']
  else []

def text (url : Url) : String :=
  let fragment := (url.fragment.map ('#' :: ·)).getD []
  url.scheme ++ ":" ++ String.ofList (url.lead ++ url.target ++ fragment)

def namedUser? (url : Url) : Option User := url.user.filter User.canBeNamed

def withoutNamedUser (url : Url) : Url :=
  if url.namedUser?.isSome then { url with user := none } else url

def isHttp (url : Url) : Bool := url.scheme == "http" || url.scheme == "https"

def maxLength : Nat := 65534

/-- A request can name the URL: it is short enough and its host has none of the characters that have no
place in a request. -/
def canBeAsked (url : Url) : Bool :=
  url.isHttp && url.text.utf8ByteSize ≤ maxLength &&
    !(url.host.getD []).any ['"', '\x60', '\x7b', '\x7d'].contains

end Url
end ApiLoad.Http
