import ApiLoad.Settings.Environment

/-!
# Files of variables

A line gives a variable its value, with or without the word `export` before it, or is empty or a
comment. A value may be quoted. Variables that are already set keep their value, and the first
malformed line ends the reading.
-/
set_option autoImplicit false

namespace ApiLoad.DotEnv

def isSpace (c : Char) : Bool := c == ' ' || c == '\t' || c == '\r'

def skipSpace (text : List Char) : List Char := text.dropWhile isSpace

def isNameChar (c : Char) : Bool := c.isAlphanum || c == '_' || c == '.'

def name? (text : List Char) : Option (String × List Char) :=
  match text with
  | c :: _ =>
    if c.isAlpha || c == '_' then
      some (String.ofList (text.takeWhile isNameChar), text.dropWhile isNameChar)
    else none
  | [] => none

inductive Quote
  | none
  | single
  | double
deriving DecidableEq, Repr

def escape? : Char → Option Char
  | 'n' => some '\n'
  | c => if ['\\', '\'', '"', '$', ' '].contains c then some c else none

def endsLine (text : List Char) : Bool :=
  match skipSpace text with
  | [] => true
  | c :: _ => c == '#'

def value? : Quote → List Char → Option (List Char)
  | .none, [] => some []
  | _, [] => none
  | .single, c :: rest =>
    if c = '\'' then value? .none rest else (value? .single rest).map (c :: ·)
  | quote, '\\' :: c :: rest =>
    match escape? c with
    | none => none
    | some char => (value? quote rest).map (char :: ·)
  | .double, c :: rest =>
    if c = '"' then value? .none rest else (value? .double rest).map (c :: ·)
  | .none, c :: rest =>
    if c = '\'' then value? .single rest
    else if c = '"' then value? .double rest
    else if isSpace c then if endsLine rest then some [] else none
    else (value? .none rest).map (c :: ·)

def afterEquals? (text : List Char) : Option String :=
  match skipSpace text with
  | '=' :: rest =>
    let rest := skipSpace rest
    if rest.head?.getD '#' = '#' then some "" else (value? .none rest).map String.ofList
  | _ => none

def line? (line : List Char) : Option (Option (String × String)) :=
  let text := skipSpace line
  if text.head?.getD '#' = '#' then some none
  else do
    let (name, rest) ← name? text
    match afterEquals? rest with
    | some value => pure (some (name, value))
    | none =>
      if name ≠ "export" then none
      else do
        let (name, rest) ← name? (skipSpace rest)
        pure (some (name, ← afterEquals? rest))

def set (env : Environment) (entry : String × String) : Environment :=
  if (env.lookup entry.1).isSome then env else env ++ [entry]

def load (env : Environment) : List String → Environment × Bool
  | [] => (env, true)
  | line :: rest =>
    match line? line.toList with
    | none => (env, false)
    | some none => load env rest
    | some (some entry) => load (set env entry) rest

/-- The paths at which a file of variables is looked for: in a directory and in those above it. -/
def candidates (directory : String) : List String :=
  let parts := directory.splitOn "/"
  (List.range parts.length).map fun above =>
    "/".intercalate (parts.take (parts.length - above) ++ [".env"])

def tried (env : Environment) (file : Option String) : Environment × Log.Entry :=
  let (after, loaded) := match file with
    | none => (env, false)
    | some text => load env (text.splitOn "\n")
  (after, Log.info (if loaded then "Loaded environment variables from .env file"
    else "No .env file found, using system environment variables"))

end ApiLoad.DotEnv
