import Redline.Diff.Search
import Redline.Diff.Settle

/-!
# Blocks and groups

A settled script becomes a list of *blocks*, in which neighbouring edits of one kind are one and a
deletion next to an insertion is a replacement. Blocks then fall into *groups*: a long equal block
between two changes is cut, so that each group shows its changes with a few equal lines around them.
-/

namespace Redline.Diff

/-! ## Blocks -/

/-- A run of the old sequence and the run of the new sequence that takes its place. -/
structure Block where
  /-- Whether both runs are the same. -/
  isEqual : Bool
  /-- Where the old run starts. -/
  old : Nat
  /-- The length of the old run. -/
  oldLength : Nat
  /-- Where the new run starts. -/
  new : Nat
  /-- The length of the new run. -/
  newLength : Nat
deriving DecidableEq, Repr

def Block.equal (old new length : Nat) : Block := ⟨true, old, length, new, length⟩

/-- Edits read but not yet turned into blocks, at most one of each kind. -/
structure Pending where
  /-- An equal run. -/
  equal : Option Edit := none
  /-- A deleted run. -/
  delete : Option Edit := none
  /-- An inserted run. -/
  insert : Option Edit := none

namespace Pending

/-- A run made longer by an edit of its kind, or started by it. -/
def extend (run : Option Edit) (e : Edit) : Option Edit :=
  match run with
  | some r => some (r.growRight e.length)
  | none => some e

/-- The block of a pending equal run. -/
def equalBlocks (p : Pending) : List Block :=
  match p.equal with
  | some e => [.equal e.old e.new e.length]
  | none => []

/-- The block of the pending change. A deletion and an insertion together are one replacement. -/
def changeBlocks (p : Pending) : List Block :=
  match p.delete, p.insert with
  | some d, some i => [⟨false, d.old, d.length, i.new, i.length⟩]
  | some d, none => [⟨false, d.old, d.length, d.new, 0⟩]
  | none, some i => [⟨false, i.old, 0, i.new, i.length⟩]
  | none, none => []

end Pending

/-- The blocks of the edits after those that are pending. -/
def blocksFrom (p : Pending) : List Edit → List Block
  | [] => p.equalBlocks ++ p.changeBlocks
  | e :: rest =>
    match e.kind with
    | .equal => p.changeBlocks ++ blocksFrom ⟨Pending.extend p.equal e, none, none⟩ rest
    | .delete => p.equalBlocks ++ blocksFrom ⟨none, Pending.extend p.delete e, p.insert⟩ rest
    | .insert => p.equalBlocks ++ blocksFrom ⟨none, p.delete, Pending.extend p.insert e⟩ rest

def blocks (script : List Edit) : List Block := blocksFrom {} script

/-! ## Groups -/

/-- An equal block cut to its last `radius` lines; a change stays. -/
def Block.keepLast (radius : Nat) (b : Block) : Block :=
  if b.isEqual then
    let skip := b.oldLength - radius
    .equal (b.old + skip) (b.new + skip) (b.oldLength - skip)
  else b

/-- An equal block cut to its first `radius` lines; a change stays. -/
def Block.keepFirst (radius : Nat) (b : Block) : Block :=
  if b.isEqual then .equal b.old b.new (min b.oldLength radius) else b

def modifyFirst {β : Type} (f : β → β) : List β → List β
  | [] => []
  | x :: xs => f x :: xs

def modifyLast {β : Type} (f : β → β) : List β → List β
  | [] => []
  | [x] => [f x]
  | x :: y :: rest => x :: modifyLast f (y :: rest)

/-- A group that shows no change. -/
def isIdle : List Block → Bool
  | [] => true
  | [b] => b.isEqual
  | _ => false

/-- The groups of the blocks after those of the group at hand, which is given from its end. -/
def groupsFrom (radius : Nat) (group : List Block) : List Block → List (List Block)
  | [] => if isIdle group then [] else [group.reverse]
  | b :: rest =>
    if b.isEqual ∧ radius * 2 < b.oldLength then
      (b.keepFirst radius :: group).reverse :: groupsFrom radius [b.keepLast radius] rest
    else groupsFrom radius (b :: group) rest

/-- The groups of a list of blocks, each with at most `radius` equal lines around its changes. -/
def groups (radius : Nat) (blocks : List Block) : List (List Block) :=
  groupsFrom radius []
    (modifyLast (Block.keepFirst radius) (modifyFirst (Block.keepLast radius) blocks))

/-- The groups of changed lines between two sequences. -/
def groupsBetween {α : Type} [BEq α] (radius : Nat) (old new : Array α) : List (List Block) :=
  groups radius (blocks (settle old new (rawScript old new)))

end Redline.Diff
