import ApiLoad.Yaml.Token.Layout

/-!
# Nodes

The tree of a text before its scalars are given a meaning: aliases name anchors, and a node may carry
an anchor and a tag. The grammar reads one document and refuses a second one. A missing node is an
empty plain scalar.
-/
set_option autoImplicit false

namespace ApiLoad.Yaml

structure Properties (Name : Type) where
  anchor : Option Name := none
  tag : Option Tag := none
deriving Repr

inductive Node (Name : Type)
  | alias (name : Name)
  | scalar (properties : Properties Name) (plain : Bool) (text : String)
  | sequence (properties : Properties Name) (items : List (Node Name))
  | mapping (properties : Properties Name) (entries : List (Node Name × Node Name))
deriving Repr

namespace Node

def empty : Node String := .scalar {} true ""

def isAlias {Name : Type} : Node Name → Bool
  | .alias _ => true
  | _ => false

abbrev Handles := List (String × Tag)

def standardHandles : Handles :=
  [("!", Tag.ofString "!"), ("!!", Tag.ofString "tag:yaml.org,2002:")]

def tag? (handles : Handles) (handle : String) (suffix : Tag) : Option Tag :=
  if handle = "" then some suffix
  else (handles.lookup handle).map fun start => start ++ suffix

/-- At most one anchor and one tag, in either order, or no properties. -/
def properties? (handles : Handles) :
    List Token → Option (Option (Properties String) × List Token)
  | .anchor name :: .tag handle suffix :: rest | .tag handle suffix :: .anchor name :: rest =>
    (tag? handles handle suffix).map fun tag => (some ⟨some name, some tag⟩, rest)
  | .anchor name :: rest => some (some ⟨some name, none⟩, rest)
  | .tag handle suffix :: rest =>
    (tag? handles handle suffix).map fun tag => (some ⟨none, some tag⟩, rest)
  | rest => some (none, rest)

def orEmpty (ends : List Token) (node? : List Token → Option (Node String × List Token))
    (tokens : List Token) : Option (Node String × List Token) :=
  if (tokens.head?.map ends.contains).getD false then some (empty, tokens) else node? tokens

/-- The value of an entry. It is empty when no value indicator comes. -/
def valueOf (ends : List Token) (node? : List Token → Option (Node String × List Token)) :
    List Token → Option (Node String × List Token)
  | .value :: rest => orEmpty ends node? rest
  | rest => some (empty, rest)

def memberEnds : List Token := [.key, .value, .blockEnd]
def itemEnds : List Token := .blockEntry :: memberEnds
def flowEnds : List Token := [.flowEntry, .flowSequenceEnd, .flowMappingEnd]

def separated? (first : Bool) (tokens : List Token) : Option (List Token) :=
  match first, tokens with
  | true, _ => some tokens
  | false, .flowEntry :: rest => some rest
  | false, _ => none

/-- The key after a question mark inside brackets. An indicator in its place is taken for it. -/
def pairKey (node? : List Token → Option (Node String × List Token)) :
    List Token → Option (Node String × List Token)
  | .value :: rest | .flowEntry :: rest | .flowSequenceEnd :: rest => some (empty, rest)
  | tokens => node? tokens

mutual

/-- A node. `member` holds of the keys and values of a block mapping, whose sequences need not be
indented. Every token takes at most two steps. -/
def node? (handles : Handles) : Nat → Bool → List Token → Option (Node String × List Token)
  | 0, _, _ => none
  | _ + 1, _, .alias name :: rest => some (.alias name, rest)
  | steps + 1, member, tokens => do
    let (given, rest) ← properties? handles tokens
    let properties := given.getD {}
    match rest with
    | .scalar text plain :: rest => pure (.scalar properties plain text, rest)
    | .flowSequenceStart :: rest =>
      (flowItems? handles steps true rest).map fun (items, rest) => (.sequence properties items, rest)
    | .flowMappingStart :: rest =>
      (flowEntries? handles steps true rest).map fun (entries, rest) =>
        (.mapping properties entries, rest)
    | .blockSequenceStart :: rest =>
      (blockItems? handles steps true rest).map fun (items, rest) => (.sequence properties items, rest)
    | .blockMappingStart :: rest =>
      (blockEntries? handles steps rest).map fun (entries, rest) => (.mapping properties entries, rest)
    | rest =>
      if member && rest.head? == some .blockEntry then
        (blockItems? handles steps false rest).map fun (items, rest) =>
          (.sequence properties items, rest)
      else if given.isSome then pure (.scalar properties true "", rest)
      else none

/-- The items after dashes. Indented ones have an end of their own. -/
def blockItems? (handles : Handles) :
    Nat → Bool → List Token → Option (List (Node String) × List Token)
  | 0, _, _ => none
  | steps + 1, indented, .blockEntry :: rest => do
    let (item, rest) ← orEmpty itemEnds (node? handles steps false) rest
    let (items, rest) ← blockItems? handles steps indented rest
    pure (item :: items, rest)
  | _ + 1, true, .blockEnd :: rest => some ([], rest)
  | _ + 1, true, _ => none
  | _ + 1, false, rest => some ([], rest)

def blockEntries? (handles : Handles) :
    Nat → List Token → Option (List (Node String × Node String) × List Token)
  | 0, _ => none
  | steps + 1, .key :: rest => do
    let (key, rest) ← orEmpty memberEnds (node? handles steps true) rest
    let (value, rest) ← valueOf memberEnds (node? handles steps true) rest
    let (entries, rest) ← blockEntries? handles steps rest
    pure ((key, value) :: entries, rest)
  | _ + 1, .blockEnd :: rest => some ([], rest)
  | _ + 1, _ => none

/-- The items up to the closing bracket. A single pair may stand for a mapping. -/
def flowItems? (handles : Handles) :
    Nat → Bool → List Token → Option (List (Node String) × List Token)
  | 0, _, _ => none
  | _ + 1, _, .flowSequenceEnd :: rest => some ([], rest)
  | steps + 1, first, tokens => do
    let tokens ← separated? first tokens
    match tokens with
    | .flowSequenceEnd :: rest => pure ([], rest)
    | .key :: rest =>
      let (key, rest) ← pairKey (node? handles steps false) rest
      let (value, rest) ← valueOf flowEnds (node? handles steps false) rest
      let (items, rest) ← flowItems? handles steps false rest
      pure (.mapping {} [(key, value)] :: items, rest)
    | tokens =>
      let (item, rest) ← node? handles steps false tokens
      let (items, rest) ← flowItems? handles steps false rest
      pure (item :: items, rest)

/-- The entries up to the closing brace. A key that no colon follows has an empty value. -/
def flowEntries? (handles : Handles) :
    Nat → Bool → List Token → Option (List (Node String × Node String) × List Token)
  | 0, _, _ => none
  | _ + 1, _, .flowMappingEnd :: rest => some ([], rest)
  | steps + 1, first, tokens => do
    let tokens ← separated? first tokens
    match tokens with
    | .flowMappingEnd :: rest => pure ([], rest)
    | .key :: rest =>
      let (key, rest) ← orEmpty (.value :: flowEnds) (node? handles steps false) rest
      let (value, rest) ← valueOf flowEnds (node? handles steps false) rest
      let (entries, rest) ← flowEntries? handles steps false rest
      pure ((key, value) :: entries, rest)
    | tokens =>
      let (key, rest) ← node? handles steps false tokens
      let (entries, rest) ← flowEntries? handles steps false rest
      pure ((key, empty) :: entries, rest)

end

/-- The directives before a document: one version, 1.1 or 1.2, and every handle at most once. -/
def directives? : Bool → Handles → List Token → Option (Handles × List Token)
  | versioned, handles, .version major minor :: rest =>
    if versioned ∨ major ≠ 1 ∨ (minor ≠ 1 ∧ minor ≠ 2) then none
    else directives? true handles rest
  | versioned, handles, .tagDirective handle start :: rest =>
    if (handles.lookup handle).isSome then none
    else directives? versioned (handles ++ [(handle, start)]) rest
  | _, handles, rest => some (handles, rest)

def startsDocument : Token → Bool
  | .version _ _ | .tagDirective _ _ | .documentStart => true
  | _ => false

def first? (tokens : List Token) : Option (Node String × List Token) :=
  let steps := 2 * tokens.length + 2
  match tokens with
  | [] => some (empty, [])
  | token :: _ =>
    if startsDocument token then do
      let (handles, rest) ← directives? false [] tokens
      let .documentStart :: rest := rest | none
      if (rest.head?.map fun token => startsDocument token || token == .documentEnd).getD true then
        pure (empty, rest)
      else node? (handles ++ standardHandles) steps false rest
    else node? standardHandles steps false tokens

def ofTokens? (tokens : List Token) : Option (Node String) := do
  let (node, rest) ← first? tokens
  if rest.all (· == .documentEnd) then pure node else none

end Node
end ApiLoad.Yaml
