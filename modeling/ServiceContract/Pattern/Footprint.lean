import Std.Data.HashMap
import ServiceContract.Pattern.Expression
import ServiceContract.Unicode.ByteSequences

/-!
# The footprint of a pattern

Counted repetitions are written out when a pattern is compiled, so a short pattern can become very
large. A pattern is refused if one of two automata over the bytes of a text would take more than
`footprintLimit` bytes: one that reads a text forward and tells groups apart, and one that reads it
backward. Neither is built. What is counted is their states, each of `stateSize` bytes, and the
links in them: transitions for ranges of bytes, and branches where the automaton goes on in several
ways.

Inside the automaton of a set of characters equal states are shared, as far as a table with a fixed
number of slots remembers them. Which slot a state takes depends on the numbers of the states behind
it, so the states of a set are the only ones that are numbered one by one.
-/

namespace ServiceContract.Pattern

open Unicode (CodePoints ByteRange)

/-- How many bytes an automaton may take. -/
def footprintLimit : Nat := 10485760

/-- The bytes of a state. -/
def stateSize : Nat := 32

/-- The bytes of a transition for a range of bytes. -/
def transitionSize : Nat := 8

/-- The bytes of a branch. -/
def branchSize : Nat := 4

/-- An automaton as far as it has been counted. -/
structure Footprint where
  /-- The number of states, which is also the number of the next one. -/
  states : Nat
  /-- The bytes of all links. -/
  links : Nat

namespace Footprint

/-- The bytes of the automaton. -/
def size (footprint : Footprint) : Nat := footprint.states * stateSize + footprint.links

/-- Adds states and the bytes of links, within the limit. -/
def add (footprint : Footprint) (states links : Nat) : Option Footprint :=
  let footprint := ⟨footprint.states + states, footprint.links + links⟩
  if footprint.size ≤ footprintLimit then some footprint else none

end Footprint

/-- A part of an automaton, which is entered at one state and left at another. -/
structure Fragment where
  /-- The automaton with this part. -/
  footprint : Footprint
  /-- The part is left at a state that branches, so that what follows is one more branch of it. -/
  endsInBranch : Bool

namespace Fragment

/-- Connects the end of the part to another state. -/
def connect (fragment : Fragment) : Option Footprint :=
  fragment.footprint.add 0 (if fragment.endsInBranch then branchSize else 0)

end Fragment

/-! ## Sets of characters -/

/-- Numbers in a row mixed to a number of a slot. -/
def slotOf (slots : Nat) (numbers : List Nat) : Nat :=
  let mixed : UInt64 := numbers.foldl (fun (h : UInt64) n => (h ^^^ n.toUInt64) * 1099511628211)
    14695981039346656037
  mixed.toNat % slots

/-- A table that remembers one thing for each slot: the latest that fell on it. -/
abbrev SlotTable (α : Type) := Std.HashMap Nat (α × Nat)

/-- A transition of a state: a range of bytes and the number of the next state. -/
structure Transition where
  /-- The range of bytes. -/
  range : ByteRange
  /-- The number of the next state. -/
  next : Nat
deriving DecidableEq

/-- The automaton of a set while its sequences are entered in their order. -/
structure SetBuilder where
  /-- The automaton. -/
  footprint : Footprint
  /-- The finished states. -/
  finished : SlotTable (List Transition)

/-- A state to which transitions are still added. -/
structure OpenState where
  /-- The finished transitions, latest first. -/
  transitions : List Transition
  /-- The range of the transition at hand, which leads to the next open state. -/
  current : Option ByteRange

/-- Finishes the transition at hand. -/
def OpenState.close (state : OpenState) (next : Nat) : OpenState :=
  match state.current with
  | none => state
  | some range => ⟨⟨range, next⟩ :: state.transitions, none⟩

namespace SetBuilder

/-- How many finished states are remembered when a text is read forward. -/
def slots : Nat := 10000

/-- The number of a finished state, which is a new one unless an equal one is remembered. -/
def finish (builder : SetBuilder) (transitions : List Transition) : Option (SetBuilder × Nat) := do
  let slot := slotOf slots (transitions.flatMap fun t => [t.range.1, t.range.2, t.next])
  let known := (builder.finished[slot]?).filter fun (others, _) => others = transitions
  match known with
  | some (_, number) => return (builder, number)
  | none =>
    let number := builder.footprint.states
    let footprint ← builder.footprint.add 1 (transitions.length * transitionSize)
    return (⟨footprint, builder.finished.insert slot (transitions, number)⟩, number)

/-- Finishes open states, the outermost of which comes first, from the inside out. The innermost
one leads to a given state; the number of the outermost one is the result. -/
def finishAll (builder : SetBuilder) (goal : Nat) : List OpenState → Option (SetBuilder × Nat)
  | [] => some (builder, goal)
  | state :: inner => do
    let (builder, next) ← builder.finishAll goal inner
    builder.finish (state.close next).transitions.reverse

/-- Enters a sequence: the open states with the same ranges stay, those behind them are finished. -/
def enter (builder : SetBuilder) (goal : Nat) :
    List OpenState → List ByteRange → Option (SetBuilder × List OpenState)
  | state :: inner, range :: ranges => do
    if state.current = some range then
      let (builder, inner) ← builder.enter goal inner ranges
      return (builder, state :: inner)
    else
      let (builder, next) ← builder.finishAll goal inner
      let state := state.close next
      return (builder, { state with current := some range } ::
        ranges.map fun range => ⟨[], some range⟩)
  | states, _ => some (builder, states)

/-- Enters sequences one after the other. -/
def enterAll (goal : Nat) :
    List (List ByteRange) → SetBuilder × List OpenState → Option (SetBuilder × List OpenState)
  | [], state => some state
  | sequence :: rest, (builder, states) => do enterAll goal rest (← builder.enter goal states sequence)

end SetBuilder

/-- The automaton of a set that is read forward: equal states are shared from the back. -/
def forwardSet (sequences : List (List ByteRange)) (footprint : Footprint) : Option Footprint := do
  let goal := footprint.states
  let builder : SetBuilder := ⟨← footprint.add 1 0, ∅⟩
  let (builder, states) ← SetBuilder.enterAll goal sequences (builder, [⟨[], none⟩])
  let (builder, _) ← builder.finishAll goal states
  return builder.footprint

/-- How many states are remembered when a text is read backward. -/
def backwardSlots : Nat := 1000

/-- A sequence of a set that is read backward: states for its ranges, from the first to the last,
each of which leads to the one before it. A state that leads to the same one by the same range is
shared if it is remembered. -/
def backwardSequence (goal : Nat) :
    List ByteRange → Footprint × SlotTable Transition → Option (Footprint × SlotTable Transition)
  | [], state => some state
  | range :: rest, (footprint, known) => do
    let transition : Transition := ⟨range, goal⟩
    let slot := slotOf backwardSlots [goal, range.1, range.2]
    match (known[slot]?).filter fun (other, _) => other = transition with
    | some (_, number) => backwardSequence number rest (footprint, known)
    | none =>
      let number := footprint.states
      backwardSequence number rest
        (← footprint.add 1 0, known.insert slot (transition, number))

/-- The automaton of a set that is read backward: a branch for every sequence. -/
def backwardSet (sequences : List (List ByteRange)) (footprint : Footprint) : Option Footprint := do
  let goal := footprint.states + 1
  enterAll goal sequences (← footprint.add 2 0, ∅)
where
  /-- Enters sequences one after the other. -/
  enterAll (goal : Nat) :
      List (List ByteRange) → Footprint × SlotTable Transition → Option Footprint
    | [], (footprint, _) => some footprint
    | sequence :: rest, state => do
      let (footprint, known) ← backwardSequence goal sequence state
      enterAll goal rest (← footprint.add 0 branchSize, known)

/-- The automaton of a set; one of ASCII alone takes two states. -/
def addSet (backward : Bool) (set : CodePoints) (footprint : Footprint) : Option Footprint :=
  if set.all fun (_, high) => high < 0x80 then footprint.add 2 (set.length * transitionSize)
  else
    let sequences := set.flatMap fun (low, high) => Unicode.byteSequences low high
    if backward then backwardSet sequences footprint else forwardSet sequences footprint

/-! ## Choices of literals -/

/-- What is left of literals that have begun alike, grouped by the next byte. -/
def groupByByte (literals : List (List Nat)) : List (Nat × List (List Nat)) :=
  literals.foldr (fun literal groups =>
    match literal with
    | [] => groups
    | byte :: rest => insert byte rest groups) []
where
  /-- Puts the rest of a literal in front of those with the same byte. -/
  insert (byte : Nat) (rest : List Nat) :
      List (Nat × List (List Nat)) → List (Nat × List (List Nat))
    | [] => [(byte, [rest])]
    | (other, rests) :: groups =>
      if byte = other then (other, rest :: rests) :: groups
      else (other, rests) :: insert byte rest groups

/-- The literals up to one that ends here, and those behind it. -/
def cutAtEnd (literals : List (List Nat)) : List (List Nat) × Option (List (List Nat)) :=
  match literals.span (!·.isEmpty) with
  | (before, []) => (before, none)
  | (before, _ :: behind) => (before, some behind)

/-- Cuts the literals at all that end here. A literal that ends here is not counted again as long as
none goes on. -/
def chunksOf : (bound : Nat) → (first : Bool) → List (List Nat) → List (List (List Nat))
  | 0, _, _ => []
  | bound + 1, first, literals =>
    match cutAtEnd literals with
    | (chunk, none) => [chunk]
    | (chunk, some behind) =>
      let behind := if first && chunk.isEmpty then behind.dropWhile List.isEmpty else behind
      chunk :: chunksOf bound (first && chunk.isEmpty) behind

/-- The states for literals that have begun alike, one list of literals after the other. Every one
has a branching state, with a branch for each chunk that goes on and for each place between two
chunks; a chunk is a state with a transition for each byte. The bound is above the number of all
bytes of the literals. -/
def addLiterals : (bound : Nat) → List (List (List Nat)) → Footprint → Option Footprint
  | 0, _, footprint => some footprint
  | _ + 1, [], footprint => some footprint
  | bound + 1, literals :: todo, footprint => do
    let chunks := (chunksOf (literals.length + 1) true literals).map groupByByte
    let going := chunks.filter (!·.isEmpty)
    let transitions := going.map fun groups => if groups.length = 1 then 0 else groups.length
    let inner := going.flatten.map (·.2)
    addLiterals bound (inner.filter (·.any (!·.isEmpty)) ++ todo)
      (← footprint.add (going.length + 1)
        (transitions.sum * transitionSize + (going.length + (chunks.length - 1)) * branchSize))

/-- The bytes of a text. -/
def textBytes (text : List Char) : List Nat := text.flatMap fun c => Unicode.bytesOf c.toNat

/-- The texts of expressions that are all literals. -/
def literalTexts? (alternatives : List Expression) : Option (List (List Char)) :=
  alternatives.mapM fun
    | .literal text => some text
    | _ => none

/-- The automaton of a choice of literals, which share how they begin. -/
def addLiteralChoice (backward : Bool) (texts : List (List Char)) (footprint : Footprint) :
    Option Footprint := do
  let literals := texts.map fun text =>
    if backward then (textBytes text).reverse else textBytes text
  let bound := literals.foldl (fun n literal => n + literal.length) 2
  addLiterals bound [literals] (← footprint.add 1 0)

/-! ## Expressions -/

/-- Does a step several times. -/
def timesTry {α : Type} (step : α → Option α) : Nat → α → Option α
  | 0, a => some a
  | count + 1, a => do timesTry step count (← step a)

namespace Expression

mutual

/-- Adds the automaton of an expression. -/
def addTo (backward : Bool) : Expression → Footprint → Option Fragment
  | .empty, footprint => do return ⟨← footprint.add 1 0, false⟩
  | .literal text, footprint => do return ⟨← footprint.add (textBytes text).length 0, false⟩
  | .character set, footprint => do return ⟨← addSet backward set footprint, false⟩
  | .assertion _, footprint => do return ⟨← footprint.add 1 0, false⟩
  | .group _ part, footprint =>
    if backward then part.addTo backward footprint
    else do
      let inner ← (← part.addTo backward (← footprint.add 1 0)).connect
      return ⟨← inner.add 1 0, false⟩
  | .sequence parts, footprint => addSequence backward parts ⟨footprint, false⟩
  | .choice alternatives, footprint => do
    match literalTexts? alternatives with
    | some texts => return ⟨← addLiteralChoice backward texts footprint, false⟩
    | none => return ⟨← addChoice backward 0 alternatives footprint, false⟩
  | .repeated part least most _, footprint => do
    let next := fun (before : Fragment) => do
      let added ← part.addTo backward before.footprint
      return (⟨← Fragment.connect ⟨added.footprint, before.endsInBranch⟩, added.endsInBranch⟩ :
        Fragment)
    let exactly := fun (count : Nat) =>
      if count = 0 then do return (⟨← footprint.add 1 0, false⟩ : Fragment)
      else timesTry next count ⟨footprint, false⟩
    match least, most with
    | 0, some 1 =>
      let inner ← (← part.addTo backward (← footprint.add 1 0)).connect
      return ⟨← inner.add 1 (2 * branchSize), false⟩
    | 0, none =>
      if part.shape.least.any (0 < ·) then
        let inner ← (← part.addTo backward (← footprint.add 1 0)).connect
        return ⟨← inner.add 0 branchSize, true⟩
      else
        let inner ← (← part.addTo backward footprint).connect
        return ⟨← inner.add 3 (4 * branchSize), false⟩
    | least + 1, none =>
      let once := if least = 0 then part.addTo backward footprint else do next (← exactly least)
      let inner ← (← once).connect
      return ⟨← inner.add 1 branchSize, true⟩
    | least, some most =>
      let required ← exactly least
      if most = least then return required
      let optional := fun (before : Fragment) => do
        let inner ← part.addTo backward (← (← before.connect).add 1 (2 * branchSize))
        return inner
      let all ← timesTry optional (most - least)
        ⟨← required.footprint.add 1 0, required.endsInBranch⟩
      return ⟨← all.connect, false⟩
termination_by structural e => e

/-- Adds the automata of parts in the order in which they are read. -/
def addSequence (backward : Bool) : List Expression → Fragment → Option Fragment
  | [], before => some before
  | part :: rest, before => do
    let next := fun (before : Fragment) => do
      let added ← part.addTo backward before.footprint
      return (⟨← Fragment.connect ⟨added.footprint, before.endsInBranch⟩, added.endsInBranch⟩ :
        Fragment)
    if backward then next (← addSequence backward rest before)
    else addSequence backward rest (← next before)
termination_by structural parts => parts

/-- Adds the automata of alternatives. Behind the second one come the state that branches and the
state where the alternatives meet. -/
def addChoice (backward : Bool) (position : Nat) :
    List Expression → Footprint → Option Footprint
  | [], footprint => some footprint
  | alternative :: rest, footprint => do
    let inner ← (← alternative.addTo backward footprint).connect
    addChoice backward (position + 1) rest
      (← inner.add (if position = 1 then 2 else 0) branchSize)
termination_by structural alternatives => alternatives

end

/-- A choice of so many literals is searched for without an automaton. -/
def manyLiterals : Nat := 3000

/-- The automaton for reading in one direction is within the limit. One that may begin anywhere has
a loop over any byte in front. -/
def fitsReading (e : Expression) (backward : Bool) : Bool :=
  let anchored := if backward then e.shape.atEnd else e.shape.atStart
  Option.isSome do
    let start ← Footprint.add ⟨0, 0⟩ (if anchored then 1 else 3)
      (if anchored then 0 else transitionSize + 2 * branchSize)
    let whole ← (← (Expression.group 0 e).addTo backward start).connect
    whole.add 1 0

/-- The automata of a pattern are within the limit. -/
def isCompact (e : Expression) : Bool :=
  let isLarge := match e with
    | .choice alternatives =>
      manyLiterals ≤ alternatives.length && (literalTexts? alternatives).isSome
    | _ => false
  isLarge || (e.fitsReading false && e.fitsReading true)

end Expression

end ServiceContract.Pattern
