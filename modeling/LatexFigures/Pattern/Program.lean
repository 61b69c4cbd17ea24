import LatexFigures.Pattern.Basic

/-! Patterns as programs. A program is a list of instructions, each of which goes on with the
one behind it unless it says otherwise; where it may go on in two ways, it prefers the first.
Counted repetitions are written out.
-/

namespace LatexFigures.Pattern

/-- A step of matching. -/
inductive Instruction
  /-- Passes a character of the class. -/
  | read (cls : CharClass)
  /-- Goes on if the condition holds. -/
  | check (condition : Assertion)
  /-- Remembers the place in a slot. -/
  | mark (slot : Nat)
  | jump (target : Nat)
  | choose (preferred other : Nat)
  /-- The pattern has matched. -/
  | accept
deriving Repr, DecidableEq

/-- The instructions of a program, by number. -/
abbrev Program := Array Instruction

/-- The slot for the start of a group. -/
def startSlot (group : Nat) : Nat := 2 * group

/-- The slot for the end of a group. -/
def endSlot (group : Nat) : Nat := 2 * group + 1

/-- A choice between a body and what comes behind it. -/
def Instruction.enter (greedy : Bool) (body behind : Nat) : Instruction :=
  if greedy then .choose body behind else .choose behind body

/-- How many instructions a pattern takes. -/
def length : Pattern → Nat
  | .empty => 0
  | .char _ | .assertion _ => 1
  | .seq first second => first.length + second.length
  | .either first second => first.length + second.length + 2
  | .many body least (some most) _ =>
      least * body.length + (most - least) * (body.length + 1)
  | .many body 0 none _ => body.length + 2
  | .many body (least + 1) none _ => (least + 1) * body.length + 1
  | .group _ _ body => body.length + 2

/-- Appends the instructions of a pattern to a program. A repetition without upper bound goes
back to its last copy of the body. If none is due and the body may match nothing, the choice
to enter the body is apart from the choice to go back: were they one, such a body could no
longer be left.
-/
def emit : Pattern → Program → Program
  | .empty, code => code
  | .char cls, code => code.push (.read cls)
  | .assertion condition, code => code.push (.check condition)
  | .seq first second, code => second.emit (first.emit code)
  | .either first second, code =>
      let start := code.size
      let other := start + first.length + 2
      let code := first.emit (code.push (.choose (start + 1) other))
      second.emit (code.push (.jump (other + second.length)))
  | .many body least (some most) greedy, code =>
      let behind := code.size + least * body.length + (most - least) * (body.length + 1)
      let due := Nat.repeat (fun code => body.emit code) least code
      Nat.repeat (fun code => body.emit (code.push (.enter greedy (code.size + 1) behind)))
        (most - least) due
  | .many body 0 none greedy, code =>
      let start := code.size
      let enter := .enter greedy (start + 1) (start + body.length + 2)
      (body.emit (code.push enter)).push (if body.matchesEmpty then enter else .jump start)
  | .many body (least + 1) none greedy, code =>
      let code := Nat.repeat (fun code => body.emit code) least code
      let enter := .enter greedy code.size (code.size + body.length + 1)
      (body.emit code).push enter
  | .group index _ body, code =>
      (body.emit (code.push (.mark (startSlot index)))).push (.mark (endSlot index))

end LatexFigures.Pattern
