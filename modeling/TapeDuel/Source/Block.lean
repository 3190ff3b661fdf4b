import TapeDuel.Program.Instruction

/-!
# Syntax trees and the programs they stand for

A source text denotes a `Block`: a sequence of actions, conditional loops `[body]` and
counted loops `(body)*count`. A block is laid out as a program from left to right.
Both ends of a loop are instructions and each names the place of the other.
-/

namespace TapeDuel

/-- What a bot can do in one turn besides looping. -/
inductive Action where
  | back
  | forward
  | increment
  | decrement
  | rest
deriving DecidableEq, Repr

/-- The operation of an action. -/
def Action.op : Action → Op
  | back => .moveBack
  | forward => .moveForward
  | increment => .increment
  | decrement => .decrement
  | rest => .rest

/-- A sequence of actions and loops. -/
inductive Block where
  | done
  | act (action : Action) (next : Block)
  | loop (body next : Block)
  | times (body : Block) (count : Nat) (next : Block)
deriving DecidableEq, Repr

instance : Inhabited Block := ⟨.done⟩

namespace Block

/-- The number of instructions a block is laid out to. -/
def size : Block → Nat
  | done => 0
  | act _ next => next.size + 1
  | loop body next => body.size + next.size + 2
  | times body _ next => body.size + next.size + 2

/-- Lays a block out behind the instructions already there. The start of a loop is
written when its end is reached, because only then is the place of the end known. -/
def layOnto : Block → Program → Program
  | done, code => code
  | act action next, code => next.layOnto (code.push (.plain action.op))
  | loop body next, code =>
    let start := code.size
    let code := body.layOnto (code.push (.plain .whileStart))
    let stop := code.size
    next.layOnto ((code.setIfInBounds start (.linked .whileStart stop)).push
      (.linked .whileEnd start))
  | times body count next, code =>
    let start := code.size
    let code := body.layOnto (code.push (.plain .repeatStart))
    let stop := code.size
    next.layOnto ((code.setIfInBounds start (.linked .repeatStart stop)).push
      (.repeatEnd start count))

/-- The program of a block. -/
def program (b : Block) : Program :=
  b.layOnto #[]

/-- The block `b` followed by the block `c`. -/
def append : Block → Block → Block
  | done, c => c
  | act action next, c => act action (next.append c)
  | loop body next, c => loop body (next.append c)
  | times body count next, c => times body count (next.append c)

instance : Append Block := ⟨append⟩

/-- `count` copies of a block. -/
def copies (b : Block) : Nat → Block
  | 0 => done
  | count + 1 => b ++ b.copies count

/-- The block without counted loops: each is replaced by the copies it stands for. -/
def unrolled : Block → Block
  | done => done
  | act action next => act action next.unrolled
  | loop body next => loop body.unrolled next.unrolled
  | times body count next => body.unrolled.copies count ++ next.unrolled

end Block

/-- One element of a block. -/
inductive Item where
  | act (action : Action)
  | loop (body : Block)
  | times (body : Block) (count : Nat)
deriving DecidableEq, Repr

namespace Item

/-- A block that starts with an item. -/
def followedBy : Item → Block → Block
  | act action, next => .act action next
  | loop body, next => .loop body next
  | times body count, next => .times body count next

end Item

/-- The block of the items read so far, latest first. -/
def Block.ofItems (latestFirst : List Item) : Block :=
  latestFirst.foldl (fun block item => item.followedBy block) .done

end TapeDuel
