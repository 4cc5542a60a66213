import ApiLoad.Yaml.Node

/-!
# Anchors and aliases

Anchors get numbers in the order in which their nodes start: a name's number is the count of different
names before it. An alias has the number that its name has at its place. A number stands for the last
node that got it.
-/
set_option autoImplicit false

namespace ApiLoad.Yaml

abbrev Anchors := List (String × Nat)

def Anchors.set (name : String) (anchors : Anchors) : Anchors :=
  (name, anchors.length) :: anchors.filter (·.1 ≠ name)

def Properties.number (properties : Properties String) (anchors : Anchors) :
    Properties Nat × Anchors :=
  match properties.anchor with
  | none => (⟨none, properties.tag⟩, anchors)
  | some name => (⟨some anchors.length, properties.tag⟩, anchors.set name)

namespace Node

mutual

/-- Replaces names by numbers. A name that no anchor has had yet is refused. -/
def number? (anchors : Anchors) : Node String → Option (Node Nat × Anchors)
  | .alias name => (anchors.lookup name).map fun slot => (.alias slot, anchors)
  | .scalar properties plain text =>
    let (properties, anchors) := Properties.number properties anchors
    some (.scalar properties plain text, anchors)
  | .sequence properties items =>
    let (properties, anchors) := Properties.number properties anchors
    (numberItems? anchors items).map fun (items, anchors) => (.sequence properties items, anchors)
  | .mapping properties entries =>
    let (properties, anchors) := Properties.number properties anchors
    (numberEntries? anchors entries).map fun (entries, anchors) =>
      (.mapping properties entries, anchors)

def numberItems? (anchors : Anchors) : List (Node String) → Option (List (Node Nat) × Anchors)
  | [] => some ([], anchors)
  | item :: rest => do
    let (item, anchors) ← number? anchors item
    let (rest, anchors) ← numberItems? anchors rest
    pure (item :: rest, anchors)

def numberEntries? (anchors : Anchors) :
    List (Node String × Node String) → Option (List (Node Nat × Node Nat) × Anchors)
  | [] => some ([], anchors)
  | (key, value) :: rest => do
    let (key, anchors) ← number? anchors key
    let (value, anchors) ← number? anchors value
    let (rest, anchors) ← numberEntries? anchors rest
    pure ((key, value) :: rest, anchors)

end

def numbered? (root : Node String) : Option (Node Nat) := (number? [] root).map (·.1)

def withAnchor (anchor : Option Nat) (node : Node Nat) : List (Nat × Node Nat) :=
  (anchor.map fun slot => (slot, node)).toList

mutual

def anchored : Node Nat → List (Nat × Node Nat)
  | .alias _ => []
  | node@(.scalar properties _ _) => withAnchor properties.anchor node
  | node@(.sequence properties items) => withAnchor properties.anchor node ++ anchoredItems items
  | node@(.mapping properties entries) => withAnchor properties.anchor node ++ anchoredEntries entries

def anchoredItems : List (Node Nat) → List (Nat × Node Nat)
  | [] => []
  | item :: rest => anchored item ++ anchoredItems rest

def anchoredEntries : List (Node Nat × Node Nat) → List (Nat × Node Nat)
  | [] => []
  | (key, value) :: rest => anchored key ++ anchored value ++ anchoredEntries rest

end

def target? (anchored : List (Nat × Node Nat)) (slot : Nat) : Option (Node Nat) :=
  anchored.reverse.lookup slot

mutual

def weight {Name : Type} : Node Name → Nat
  | .alias _ | .scalar _ _ _ => 1
  | .sequence _ items => weightOfItems items + 2
  | .mapping _ entries => weightOfEntries entries + 2

def weightOfItems {Name : Type} : List (Node Name) → Nat
  | [] => 0
  | item :: rest => weight item + weightOfItems rest

def weightOfEntries {Name : Type} : List (Node Name × Node Name) → Nat
  | [] => 0
  | (key, value) :: rest => weight key + weight value + weightOfEntries rest

end

end Node
end ApiLoad.Yaml
