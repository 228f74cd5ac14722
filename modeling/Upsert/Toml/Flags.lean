import Upsert.Text.Basic

/-!
# Namespace flags of a TOML document

While a document is read, every key path that names a table may carry two flags: `frozen`, for
the inside of an inline table or array, which nothing may change afterwards, and `explicit`, for
a table that a header or a dotted key already opened, which no later header may open again.
A flag is set either on one path only or on the path and everything below it.

The flags form a tree keyed by the parts of a key path. All operations walk the key path, so
they recurse on it and not on the tree.
-/

namespace Upsert.Toml

/-- The two flags. -/
inductive Flag where
  | frozen | explicit
deriving DecidableEq, Repr

/-- The flags of one key path and the subtrees of its children. -/
inductive FlagNode where
  | mk (own : List Flag) (deep : List Flag) (children : List (Text × FlagNode))

namespace FlagNode

/-- The flags of this path only. -/
def own : FlagNode → List Flag
  | mk o _ _ => o

/-- The flags of this path and of everything below it. -/
def deep : FlagNode → List Flag
  | mk _ b _ => b

/-- The children. -/
def children : FlagNode → List (Text × FlagNode)
  | mk _ _ c => c

/-- A node without flags and children. -/
def empty : FlagNode := mk [] [] []

end FlagNode

/-- A level of the flag tree: children by key part. -/
abbrev FlagLevel := List (Text × FlagNode)

/-- The node of a key part, if present. -/
def FlagLevel.find? (lv : FlagLevel) (k : Text) : Option FlagNode := (lv.lookup k)

/-- The level with the node of `k` replaced, or appended when absent. -/
def FlagLevel.put (lv : FlagLevel) (k : Text) (n : FlagNode) : FlagLevel :=
  if lv.any (·.1 = k) then lv.map fun (k', n') => if k' = k then (k', n) else (k', n')
  else lv ++ [(k, n)]

/-- The level without the node of `k`. -/
def FlagLevel.erase (lv : FlagLevel) (k : Text) : FlagLevel := lv.filter (·.1 ≠ k)

/-- Sets a flag on a key path, on the path only or also below it. -/
def FlagLevel.set (lv : FlagLevel) (key : List Text) (f : Flag) (recursive : Bool) : FlagLevel :=
  match key with
  | [] => lv
  | [k] =>
    let n := (lv.find? k).getD .empty
    let n' := if recursive then FlagNode.mk n.own (f :: n.deep) n.children
      else FlagNode.mk (f :: n.own) n.deep n.children
    lv.put k n'
  | k :: rest =>
    let n := (lv.find? k).getD .empty
    lv.put k (FlagNode.mk n.own n.deep (FlagLevel.set n.children rest f recursive))

/-- True when a key path carries a flag, set on it or on a path above it for everything below it.
The root carries none. -/
def FlagLevel.has (lv : FlagLevel) (key : List Text) (f : Flag) : Bool :=
  match key with
  | [] => false
  | [k] =>
    match lv.find? k with
    | some n => n.own.contains f || n.deep.contains f
    | none => false
  | k :: rest =>
    match lv.find? k with
    | some n => n.deep.contains f || FlagLevel.has n.children rest f
    | none => false

/-- Removes the flags of a key path and of everything below it. -/
def FlagLevel.unsetAll (lv : FlagLevel) (key : List Text) : FlagLevel :=
  match key with
  | [] => lv
  | [k] => lv.erase k
  | k :: rest =>
    match lv.find? k with
    | some n => lv.put k (FlagNode.mk n.own n.deep (FlagLevel.unsetAll n.children rest))
    | none => lv

end Upsert.Toml
