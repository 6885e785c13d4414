import AddonConfig.Pattern.Parser
import AddonConfig.Pattern.Plain

/-!
# Valid patterns

A pattern is matched by parts. What needs references, looking around or edges of words is hard and is
matched step by step; the rest is left to the plain dialect in parts as large as possible, and each such
part must be a pattern there. What is looked for behind must have a fixed length.
-/

namespace AddonConfig.Pattern

/-- How a part matches. -/
structure Traits where
  /-- The length of the shortest match. -/
  least : Nat
  /-- Every match is as long as the shortest. -/
  fixed : Bool
  /-- The plain dialect cannot match it. -/
  hard : Bool
  deriving Repr

namespace Traits

def plain (least : Nat) : Traits := ⟨least, true, false⟩

def edge : Traits := ⟨0, true, true⟩

/-- Parts in a row. -/
def concat (parts : List Traits) : Traits :=
  ⟨parts.foldr (fun part sum => part.least + sum) 0, parts.all fixed, parts.any hard⟩

/-- One of two. -/
def either (a b : Traits) : Traits :=
  ⟨min a.least b.least, a.fixed && b.fixed && a.least = b.least, a.hard || b.hard⟩

/-- One of several. -/
def alternatives : List Traits → Traits
  | [] => plain 0
  | first :: rest => rest.foldl either first

/-- A condition and the branches it chooses from. The match is as long either way where the condition
and the first branch are together as long as the second. -/
def conditional (condition yes no : Traits) : Traits :=
  ⟨condition.least + min yes.least no.least,
   condition.fixed && yes.fixed && no.fixed && condition.least + yes.least = no.least, true⟩

end Traits

namespace Expr

mutual

/-- How a tree matches when the texts of the groups `recalled` are asked for again. -/
def traits (recalled : List Nat) : Expr → Traits
  | .empty => .plain 0
  | .dot => .plain 1
  | .char _ => .plain 1
  | .set _ => .plain 1
  | .anchor => .plain 0
  | .wordEdge => .edge
  | .matchEdge => .edge
  | .concat parts => .concat (traitsAll recalled parts)
  | .alternatives branches => .alternatives (traitsAll recalled branches)
  | .group number body =>
      let inner := traits recalled body
      { inner with hard := inner.hard || recalled.contains number }
  | .look _ _ => .edge
  | .repeated body least most =>
      let inner := traits recalled body
      ⟨inner.least * least, inner.fixed && most = some least, inner.hard⟩
  | .atomic body => { traits recalled body with hard := true }
  | .again _ => ⟨0, false, true⟩
  | .matched _ => .edge
  | .conditional condition yes no =>
      .conditional (traits recalled condition) (traits recalled yes) (traits recalled no)

def traitsAll (recalled : List Nat) : List Expr → List Traits
  | [] => []
  | part :: rest => traits recalled part :: traitsAll recalled rest

end

/-- The plain dialect accepts the texts of the parts in a row. -/
def plainAll (parts : List Expr) : Bool := Plain.accepts (parts.flatMap (text 1))

/-- How many parts at the beginning can be left to the plain dialect. -/
def leading (traits : List Traits) : Nat := (traits.takeWhile fun t => t.fixed && !t.hard).length

/-- How many of the parts after those at the beginning can be left to the plain dialect at the end; where
the whole is matched step by step they need a fixed length. -/
def trailing (stepwise : Bool) (traits : List Traits) : Nat :=
  ((traits.drop (leading traits)).reverse.takeWhile fun t =>
    if stepwise then t.fixed && !t.hard else !t.hard).length

mutual

/-- Whether a tree can be matched, step by step or, where it is not hard, by the plain dialect. -/
def matchable (recalled : List Nat) (stepwise : Bool) : Expr → Bool
  | .empty | .dot | .char _ | .anchor | .wordEdge | .matchEdge | .again _ | .matched _ => true
  | .set text => Plain.accepts text
  | .concat parts =>
      let found := traitsAll recalled parts
      if stepwise || found.any Traits.hard then
        let before := leading found
        let middle := parts.length - before - trailing stepwise found
        plainAll (parts.take before)
          && (((matchableAll recalled true parts).drop before).take middle).all id
          && plainAll (parts.drop (before + middle))
      else plainAll parts
  | .alternatives branches =>
      if stepwise || (traitsAll recalled branches).any Traits.hard then
        (matchableAll recalled stepwise branches).all id
      else Plain.accepts (text 1 (.alternatives branches))
  | .group number body =>
      if stepwise || (traits recalled (.group number body)).hard then matchable recalled stepwise body
      else Plain.accepts (text 1 (.group number body))
  | .look true (.alternatives branches) =>
      let found := traitsAll recalled branches
      if (Traits.alternatives found).fixed then
        if found.any Traits.hard then (matchableAll recalled false branches).all id
        else Plain.accepts (text 1 (.alternatives branches))
      else found.all Traits.fixed && (matchableAll recalled false branches).all id
  | .look behind body => (!behind || (traits recalled body).fixed) && matchable recalled false body
  | .repeated body least most =>
      let hard := (traits recalled body).hard
      if stepwise || hard then
        matchable recalled (if least = 0 ∧ most = some 1 then stepwise else true) body
      else Plain.accepts (text 1 (.repeated body least most))
  | .atomic body => matchable recalled false body
  | .conditional condition yes no =>
      matchable recalled stepwise condition && matchable recalled stepwise yes
        && matchable recalled stepwise no

/-- Which trees of a list can be matched. -/
def matchableAll (recalled : List Nat) (stepwise : Bool) : List Expr → List Bool
  | [] => []
  | part :: rest => matchable recalled stepwise part :: matchableAll recalled stepwise rest

end

end Expr

/-- Whether a text is a valid pattern. -/
def compiles (pattern : String) : Bool :=
  match Expr.ofText? pattern with
  | none => false
  | some (expr, recalled) =>
      if (expr.traits recalled).hard then expr.matchable recalled true
      else Plain.accepts (expr.text 0)

end AddonConfig.Pattern
