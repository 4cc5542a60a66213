import ApiLoad.Yaml.Node.Anchors
import ApiLoad.Yaml.Scalar.Value

/-!
# Documents

The value of a document: scalars have their meaning, aliases are replaced by what they name, and a node
with a local tag is a tagged value. Collections nest at most 128 deep, no key comes twice in a
mapping, and aliases are followed at most a hundred times as often as there are nodes.
-/
set_option autoImplicit false

namespace ApiLoad.Yaml

inductive Document
  | scalar (value : Scalar)
  | sequence (items : List Document)
  | mapping (entries : List (Document × Document))
  | tagged (name : String) (value : Document)
deriving Repr, Inhabited

namespace Scalar

/-- Equality of scalars. Floats are equal as numbers, and `1` is not `1.0`. -/
def same : Scalar → Scalar → Bool
  | .number (.float x), .number (.float y) => x.sameNumber y
  | a, b => a == b

end Scalar

namespace Document

mutual

/-- Equality of documents. The entries of a mapping have no order. -/
def same : Document → Document → Bool
  | .scalar a, .scalar b => a.same b
  | .sequence a, .sequence b => sameItems a b
  | .mapping a, .mapping b => a.length == b.length && entriesIn a b
  | .tagged name a, .tagged other b => name == other && same a b
  | _, _ => false

def sameItems : List Document → List Document → Bool
  | [], [] => true
  | a :: as, b :: bs => same a b && sameItems as bs
  | _, _ => false

def entriesIn : List (Document × Document) → List (Document × Document) → Bool
  | [], _ => true
  | (key, value) :: rest, others =>
    (others.any fun (k, v) => same key k && same value v) && entriesIn rest others

end

def distinctKeys : List (Document × Document) → Bool
  | [] => true
  | (key, _) :: rest => (rest.all fun (other, _) => !same key other) && distinctKeys rest

def underTag (tag : Option Tag) (value : Document) : Document :=
  match tag.bind Tag.localName? with
  | some name => .tagged name value
  | none => value

/-- A scalar under a local tag has the meaning that it has without one. Its tag counts only if it has a
name, and an unnamed one makes no text of it. -/
def ofScalar? (tag : Option Tag) (plain : Bool) (text : String) : Option Document :=
  let untagged? := (Scalar.ofUntagged? plain text).map Document.scalar
  match tag with
  | none => untagged?
  | some tag =>
    if tag.isLocal then untagged?.map (underTag tag)
    else (Scalar.ofTagged? tag text).map .scalar

def follow? (anchored : List (Nat × Node Nat)) : Node Nat → StateT Nat Option (Node Nat)
  | .alias slot => do
    let steps ← get
    if steps = 0 then failure
    else do
      set (steps - 1)
      StateT.lift (Node.target? anchored slot)
  | node => pure node

/-- The value of a node in at most `depth` levels of collections. The state is the number of aliases
that may still be followed. A key that stands in a mapping with a local tag is `bare`: its own tag does
not count, nor do those of the keys in it. What an alias names is never bare. -/
def ofNode? (anchored : List (Nat × Node Nat)) (depth : Nat) (bare : Bool) (node : Node Nat) :
    StateT Nat Option Document := do
  let bare := bare && !node.isAlias
  let tagOf (properties : Properties Nat) := if bare then none else properties.tag
  match ← follow? anchored node with
  | .alias _ => failure
  | .scalar properties plain text => StateT.lift (ofScalar? (tagOf properties) plain text)
  | .sequence properties items =>
    match depth with
    | 0 => failure
    | depth + 1 =>
      let items ← items.mapM (ofNode? anchored depth false)
      pure (underTag (tagOf properties) (.sequence items))
  | .mapping properties entries =>
    match depth with
    | 0 => failure
    | depth + 1 =>
      let tag := tagOf properties
      let bareKeys := bare || (tag.bind Tag.localName?).isSome
      let entries ← entries.mapM fun (key, value) => do
        let key ← ofNode? anchored depth bareKeys key
        let value ← ofNode? anchored depth false value
        pure (key, value)
      if distinctKeys entries then pure (underTag tag (.mapping entries)) else failure

def maxDepth : Nat := 128
def aliasesPerNode : Nat := 100

def ofRoot? (root : Node Nat) : Option Document :=
  ((ofNode? root.anchored maxDepth false root).run (aliasesPerNode * root.weight)).map (·.1)

def parse? (text : String) : Option Document := do
  let tokens ← Token.ofText? text.toList
  let node ← Node.ofTokens? tokens
  let root ← node.numbered?
  ofRoot? root

def untagged : Document → Document
  | .tagged _ value => untagged value
  | value => value

def text? (value : Document) : Option String :=
  match value.untagged with
  | .scalar (.string text) => some text
  | _ => none

def entries? (value : Document) : Option (List (Document × Document)) :=
  match value.untagged with
  | .mapping entries => some entries
  | _ => none

def isKey (name : String) : Document → Bool
  | .scalar (.string text) => text == name
  | _ => false

/-- The value of a key that is the text itself, without a tag. -/
def get? (name : String) (value : Document) : Option Document := do
  let entries ← value.entries?
  let (_, found) ← entries.find? fun (key, _) => isKey name key
  pure found

end Document
end ApiLoad.Yaml
