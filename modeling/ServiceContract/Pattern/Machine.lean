import ServiceContract.Pattern.Expression

/-!
# Searching machines

An expression is searched for by a machine: a list of instructions, of which several may be at work
at the same place of the text. The machine reads the text once from left to right and starts anew at
every place. At a place each instruction is followed at most once, so the work is bounded by the
length of the text times the number of instructions, whatever the text.
-/

namespace ServiceContract.Pattern

open Unicode (CodePoints)

/-! ## Looking characters up -/

/-- Whether a number lies in one of the ranges from one position to another, by halving; the ranges
are ascending. -/
def searchRanges (ranges : Array (Nat × Nat)) (n first last : Nat) : Bool :=
  if _ : first < last then
    let middle := (first + last) / 2
    match ranges[middle]? with
    | some (low, high) =>
      if n < low then searchRanges ranges n first middle
      else if high < n then searchRanges ranges n (middle + 1) last
      else true
    | none => false
  else false
termination_by last - first

/-- A set of characters that can be looked up fast. -/
structure CharacterIndex where
  /-- The ranges, in ascending order. -/
  ranges : Array (Nat × Nat)

namespace CharacterIndex

/-- The index of a set. -/
def ofSet (set : CodePoints) : CharacterIndex := ⟨set.toArray⟩

/-- The character is in the set. -/
def contains (index : CharacterIndex) (c : Char) : Bool :=
  searchRanges index.ranges c.toNat 0 index.ranges.size

end CharacterIndex

/-! ## Places -/

/-- The index of the word characters of ASCII. -/
def asciiWordIndex : CharacterIndex := .ofSet Unicode.asciiWordCharacters

/-- The index of the word characters. -/
def wordIndex : CharacterIndex := .ofSet Unicode.wordCharacters

/-- A neighbour of a place is a word character. -/
def isWord (unicode : Bool) : Option Char → Bool
  | none => false
  | some c => if unicode then wordIndex.contains c else asciiWordIndex.contains c

/-- The condition holds between two neighbours; a neighbour is missing at an end of the text. -/
def Assertion.holds : Assertion → (before behind : Option Char) → Bool
  | .textStart, before, _ => before.isNone
  | .textEnd, _, behind => behind.isNone
  | .lineStart, before, _ => before.isNone || before == some '\n'
  | .lineEnd, _, behind => behind.isNone || behind == some '\n'
  | .lineStartAnyEnding, before, behind =>
    before.isNone || before == some '\n' || (before == some '\r' && behind != some '\n')
  | .lineEndAnyEnding, before, behind =>
    behind.isNone || behind == some '\r' || (behind == some '\n' && before != some '\r')
  | .wordBoundary unicode, before, behind => isWord unicode before != isWord unicode behind
  | .noWordBoundary unicode, before, behind => isWord unicode before == isWord unicode behind
  | .wordStart unicode, before, behind => !isWord unicode before && isWord unicode behind
  | .wordEnd unicode, before, behind => isWord unicode before && !isWord unicode behind
  | .wordStartHalf unicode, before, _ => !isWord unicode before
  | .wordEndHalf unicode, _, behind => !isWord unicode behind

/-! ## Instructions -/

/-- A step of the machine. Instructions are named by their positions. -/
inductive Instruction where
  /-- Takes one given character. -/
  | take (c : Char) (next : Nat)
  /-- Takes one character out of a set. -/
  | takeAny (set : CharacterIndex) (next : Nat)
  /-- Goes on if a condition holds at the place. -/
  | check (condition : Assertion) (next : Nat)
  /-- Goes on in two ways. -/
  | fork (one other : Nat)
  /-- The expression fits. -/
  | accept

/-- The instructions made so far. -/
abbrev Code := Array Instruction

/-- Adds an instruction and tells its position. -/
def Code.add (code : Code) (instruction : Instruction) : Nat × Code :=
  (code.size, code.push instruction)

/-- Does a step several times. -/
def timesDo {α : Type} (step : α → α) : Nat → α → α
  | 0, a => a
  | count + 1, a => timesDo step count (step a)

namespace Expression

mutual

/-- Instructions for an expression that go on at a given position behind it; the result starts with
the position where they begin. -/
def assemble : Expression → Nat × Code → Nat × Code
  | .empty, target => target
  | .literal text, target =>
    text.foldr (fun c (next, code) => Code.add code (.take c next)) target
  | .character set, (next, code) => Code.add code (.takeAny (.ofSet set) next)
  | .assertion condition, (next, code) => Code.add code (.check condition next)
  | .repeated part least none _, (next, code) =>
    let loop := code.size
    let (body, code) := part.assemble (loop, code.push .accept)
    let code := code.setIfInBounds loop (.fork body next)
    if least = 0 then (loop, code) else timesDo (assemble part) (least - 1) (body, code)
  | .repeated part least (some most) _, (next, code) =>
    let optional := fun target =>
      let (body, code) := part.assemble target
      Code.add code (.fork body next)
    timesDo (assemble part) least (timesDo optional (most - least) (next, code))
  | .group _ part, target => part.assemble target
  | .sequence parts, target => assembleSequence parts target
  | .choice alternatives, (next, code) => assembleChoice next alternatives code
termination_by structural e => e

/-- Instructions for parts in a row. -/
def assembleSequence : List Expression → Nat × Code → Nat × Code
  | [], target => target
  | part :: rest, target => part.assemble (assembleSequence rest target)
termination_by structural parts => parts

/-- Instructions for alternatives that all go on at the same position. -/
def assembleChoice (next : Nat) : List Expression → Code → Nat × Code
  | [], code => Code.add code (.takeAny ⟨#[]⟩ next)
  | [alternative], code => alternative.assemble (next, code)
  | alternative :: rest, code =>
    let (other, code) := assembleChoice next rest code
    let (one, code) := alternative.assemble (next, code)
    Code.add code (.fork one other)
termination_by structural alternatives => alternatives

end

end Expression

/-! ## Searching -/

/-- A machine that searches for an expression. -/
structure Machine where
  /-- Its instructions. -/
  code : Code
  /-- The instruction that begins a fit. -/
  start : Nat

namespace Machine

/-- The machine of an expression. -/
def ofExpression (e : Expression) : Machine :=
  let (start, code) := e.assemble (0, #[.accept])
  ⟨code, start⟩

/-- Follows instructions at a place as far as no character is taken, and collects those that are to
be followed behind the next character; `none` if the expression fits. An instruction is marked with
the number of the last place at which it was followed. Each is followed once at a place and leads to
two others at most, so twice their number and that of the first ones bounds the steps. -/
def follow (code : Code) (place : Nat) (before behind : Option Char) :
    (bound : Nat) → (todo : List Nat) → (marks : Array Nat) → (found : List Nat) →
      Option (Array Nat × List Nat)
  | 0, _, marks, found => some (marks, found)
  | _ + 1, [], marks, found => some (marks, found)
  | bound + 1, i :: todo, marks, found =>
    if marks.getD i place = place then follow code place before behind bound todo marks found
    else
      let marks := marks.setIfInBounds i place
      match code[i]? with
      | none => follow code place before behind bound todo marks found
      | some (.take c next) =>
        let found := if behind = some c then next :: found else found
        follow code place before behind bound todo marks found
      | some (.takeAny set next) =>
        let found := if behind.any set.contains then next :: found else found
        follow code place before behind bound todo marks found
      | some (.check condition next) =>
        let todo := if condition.holds before behind then next :: todo else todo
        follow code place before behind bound todo marks found
      | some (.fork one other) =>
        follow code place before behind bound (one :: other :: todo) marks found
      | some .accept => none

/-- Reads the rest of a text from a place on, with the instructions to follow there. Places are
counted from one, so that no instruction is marked at first. -/
def searchFrom (machine : Machine) (place : Nat) (before : Option Char) (todo : List Nat)
    (marks : Array Nat) : List Char → Bool
  | [] =>
    let todo := machine.start :: todo
    (follow machine.code place before none (2 * machine.code.size + todo.length) todo marks
      []).isNone
  | c :: rest =>
    let todo := machine.start :: todo
    match follow machine.code place before (some c) (2 * machine.code.size + todo.length) todo
        marks [] with
    | none => true
    | some (marks, found) => searchFrom machine (place + 1) (some c) found marks rest

/-- The expression fits some stretch of the text. -/
def search (machine : Machine) (text : List Char) : Bool :=
  machine.searchFrom 1 none [] (Array.replicate machine.code.size 0) text

end Machine

end ServiceContract.Pattern
