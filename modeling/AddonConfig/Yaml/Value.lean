import AddonConfig.Yaml.Datum

/-!
# The value of a YAML document

`Value.ofNode?` puts the anchored nodes in the place of their aliases and gives the scalars their meaning.
Anchors are defined once and before their aliases, no node contains itself, the keys of a mapping differ,
and neither the height of a value nor its size beyond that of the document is unbounded.
-/

namespace AddonConfig.Yaml

/-- A value and the bytes it was read from. -/
inductive Value where
  | scalar (datum : Datum) (span : Span)
  | sequence (items : List Value) (span : Span)
  | mapping (entries : List (Value × Value)) (span : Span)
  /-- A value with a tag of the document's own. -/
  | tagged (tag : String) (value : Value)
  deriving Repr, Inhabited

/-- Whether two data are one key. Both zeros are, and so are any two NaNs. -/
def Datum.same : Datum → Datum → Bool
  | .float .nan, .float .nan => true
  | .float .nan, _ => false
  | _, .float .nan => false
  | .float a, .float b => !a.lt b && !b.lt a
  | a, b => a = b

namespace Value

mutual

/-- Whether two values are one key, wherever they were read from. -/
def same : Value → Value → Bool
  | .scalar a _, .scalar b _ => a.same b
  | .sequence items _, .sequence others _ => items.length = others.length && sameItems items others
  | .mapping entries _, .mapping others _ =>
      entries.length = others.length && sameEntries entries others
  | .tagged tag value, .tagged other v => tag = other && same value v
  | _, _ => false

/-- Whether the items of a list are those of another in order. -/
def sameItems : List Value → List Value → Bool
  | [], _ => true
  | item :: rest, other :: others => same item other && sameItems rest others
  | _ :: _, [] => false

/-- Whether every entry is among others, in any order. -/
def sameEntries : List (Value × Value) → List (Value × Value) → Bool
  | [], _ => true
  | (key, value) :: rest, others =>
      others.any (fun other => same key other.1 && same value other.2) && sameEntries rest others

end

end Value

/-- A value with its height, which is one for a scalar, and the count of the keys, values and items in it. -/
structure Measured where
  value : Value
  height : Nat
  size : Nat
  deriving Repr, Inhabited

/-- The anchored nodes so far; one that is still being read has no value yet. -/
abbrev Anchors := List (String × Option Measured)

/-- The greatest height of a value. -/
def heightLimit : Nat := 64

/-- How many times larger than its document a value may be. -/
def growthLimit : Nat := 100

namespace Node

mutual

/-- The count of the nodes in a node, aliases left out. -/
def count : Node → Nat
  | .scalar .. => 1
  | .sequence _ items _ => countItems items + 1
  | .mapping _ entries _ => countEntries entries + 1
  | .alias .. => 0

def countItems : List Node → Nat
  | [] => 0
  | item :: rest => count item + countItems rest

def countEntries : List (Node × Node) → Nat
  | [] => 0
  | (key, value) :: rest => count key + count value + countEntries rest

end

end Node

/-- A tag of the document's own begins with an exclamation mark; others say nothing of a value. -/
def Value.withTag (tag : Option String) (value : Value) : Value :=
  match tag with
  | some name => if name.toList.head? = some '!' then .tagged name value else value
  | none => value

namespace Anchors

/-- Defines an anchor whose node is still being read. -/
def opened? (anchors : Anchors) : Option String → Option Anchors
  | none => some anchors
  | some name => if (anchors.lookup name).isSome then none else some ((name, none) :: anchors)

/-- Gives an anchor its node. -/
def closed (anchors : Anchors) (node : Measured) : Option String → Anchors
  | none => anchors
  | some name => (name, some node) :: anchors

end Anchors

namespace Value

/-- A measured value within the limits. -/
def within? (limit : Nat) (node : Measured) : Option Measured :=
  if node.height ≤ heightLimit ∧ node.size ≤ limit then some node else none

mutual

/-- The value of a node after the anchors so far. -/
def ofNodeFrom? (limit : Nat) (anchors : Anchors) : Node → Option (Measured × Anchors)
  | .scalar properties style text span =>
      let value := withTag properties.tag (.scalar (.ofScalar properties.tag style text) span)
      let node : Measured := ⟨value, 1, 0⟩
      (anchors.opened? properties.anchor).map fun anchors => (node, anchors.closed node properties.anchor)
  | .sequence properties items span => do
      let anchors ← anchors.opened? properties.anchor
      let (items, anchors) ← ofItemsFrom? limit anchors items
      let height := items.foldl (fun height item => max height item.height) 0
      let size := items.foldl (fun size item => size + item.size + 1) 0
      let value := withTag properties.tag (.sequence (items.map (·.value)) span)
      let node ← within? limit ⟨value, height + 1, size⟩
      return (node, anchors.closed node properties.anchor)
  | .mapping properties entries span => do
      let anchors ← anchors.opened? properties.anchor
      let (entries, anchors) ← ofEntriesFrom? limit anchors entries
      let height := entries.foldl (fun height entry => max height (max entry.1.height entry.2.height)) 0
      let size := entries.foldl (fun size entry => size + entry.1.size + entry.2.size + 2) 0
      let value := withTag properties.tag
        (.mapping (entries.map fun entry => (entry.1.value, entry.2.value)) span)
      let node ← within? limit ⟨value, height + 1, size⟩
      return (node, anchors.closed node properties.anchor)
  | .alias name _ =>
      match anchors.lookup name with
      | some (some node) => some (node, anchors)
      | _ => none

def ofItemsFrom? (limit : Nat) (anchors : Anchors) : List Node → Option (List Measured × Anchors)
  | [] => some ([], anchors)
  | item :: rest => do
      let (item, anchors) ← ofNodeFrom? limit anchors item
      let (rest, anchors) ← ofItemsFrom? limit anchors rest
      return (item :: rest, anchors)

/-- The entries of a mapping; no key comes twice. -/
def ofEntriesFrom? (limit : Nat) (anchors : Anchors) :
    List (Node × Node) → Option (List (Measured × Measured) × Anchors)
  | [] => some ([], anchors)
  | (key, value) :: rest => do
      let (key, anchors) ← ofNodeFrom? limit anchors key
      let (value, anchors) ← ofNodeFrom? limit anchors value
      let (rest, anchors) ← ofEntriesFrom? limit anchors rest
      if rest.any (fun entry => key.value.same entry.1.value) then none
      else return ((key, value) :: rest, anchors)

end

/-- The value of a document. -/
def ofNode? (root : Node) : Option Value :=
  (ofNodeFrom? (growthLimit * root.count) [] root).map fun (node, _) => node.value

/-- The value of the first document of a text; a text without a document is null. -/
def ofText? (text : String) : Option Value := do
  match ← Document.ofText? text with
  | some root => ofNode? root
  | none => return .scalar .null ⟨0, 0⟩

end Value

end AddonConfig.Yaml
