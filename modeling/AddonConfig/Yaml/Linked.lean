import AddonConfig.Yaml.Node

/-!
# Documents with linked aliases

`Linked.ofNode?` gives every anchor a number and every alias the number of its anchor. An anchor takes the
count of the names defined so far, so where a name is defined again two anchors may have one number; the
later one then stands for both.
-/

namespace AddonConfig.Yaml

/-- A node whose aliases tell the number of an anchor. -/
inductive Linked where
  | scalar (tag : Option String) (style : ScalarStyle) (text : String)
  | sequence (tag : Option String) (items : List Linked)
  | mapping (tag : Option String) (entries : List (Linked × Linked))
  | alias (number : Nat)
  deriving Repr, Inhabited

/-- The names of anchors with their numbers, one entry a name. -/
abbrev AnchorNumbers := List (String × Nat)

/-- The nodes of the anchors, by number. -/
abbrev Targets := List (Nat × Linked)

/-- Gives an anchor its number. -/
def AnchorNumbers.define (numbers : AnchorNumbers) : Option String → AnchorNumbers
  | some name => (name, numbers.length) :: numbers.filter (·.1 ≠ name)
  | none => numbers

/-- The target that a node with an anchor makes. -/
def Targets.ofAnchor (numbers : AnchorNumbers) (anchor : Option String) (node : Linked) : Targets :=
  if anchor.isSome then [(numbers.length, node)] else []

namespace Linked

mutual

/-- A node after the anchors so far, and the targets in it in the order in which they begin. -/
def ofNodeFrom? (numbers : AnchorNumbers) : Node → Option (Linked × AnchorNumbers × Targets)
  | .scalar properties style text _ =>
      let node := scalar properties.tag style text
      some (node, numbers.define properties.anchor, .ofAnchor numbers properties.anchor node)
  | .sequence properties items _ => do
      let (items, after, targets) ← ofItemsFrom? (numbers.define properties.anchor) items
      let node := sequence properties.tag items
      return (node, after, .ofAnchor numbers properties.anchor node ++ targets)
  | .mapping properties entries _ => do
      let (entries, after, targets) ← ofEntriesFrom? (numbers.define properties.anchor) entries
      let node := mapping properties.tag entries
      return (node, after, .ofAnchor numbers properties.anchor node ++ targets)
  | .alias name _ => (numbers.lookup name).map fun number => (.alias number, numbers, [])

def ofItemsFrom? (numbers : AnchorNumbers) : List Node → Option (List Linked × AnchorNumbers × Targets)
  | [] => some ([], numbers, [])
  | item :: rest => do
      let (item, numbers, first) ← ofNodeFrom? numbers item
      let (rest, numbers, others) ← ofItemsFrom? numbers rest
      return (item :: rest, numbers, first ++ others)

def ofEntriesFrom? (numbers : AnchorNumbers) :
    List (Node × Node) → Option (List (Linked × Linked) × AnchorNumbers × Targets)
  | [] => some ([], numbers, [])
  | (key, value) :: rest => do
      let (key, numbers, first) ← ofNodeFrom? numbers key
      let (value, numbers, second) ← ofNodeFrom? numbers value
      let (rest, numbers, others) ← ofEntriesFrom? numbers rest
      return ((key, value) :: rest, numbers, first ++ second ++ others)

end

/-- A document with its targets, the later ones first. -/
def ofNode? (root : Node) : Option (Linked × Targets) :=
  (ofNodeFrom? [] root).map fun (node, _, targets) => (node, targets.reverse)

mutual

/-- The size of a node: one for a scalar or an alias, two for a collection and what is in it. -/
def size : Linked → Nat
  | .scalar .. => 1
  | .sequence _ items => sizeOfItems items + 2
  | .mapping _ entries => sizeOfEntries entries + 2
  | .alias _ => 1

def sizeOfItems : List Linked → Nat
  | [] => 0
  | item :: rest => size item + sizeOfItems rest

def sizeOfEntries : List (Linked × Linked) → Nat
  | [] => 0
  | (key, value) :: rest => size key + size value + sizeOfEntries rest

end

/-- A scalar that is written as nothing at all. -/
def isAbsent : Linked → Bool
  | .scalar _ .plain text => text.isEmpty
  | _ => false

end Linked

end AddonConfig.Yaml
