import LatexFigures.Pattern.Program
import LatexFigures.Text.Match

/-! Matching by following all ways through a program at once. A front holds the threads at one
place of a text, the most preferred first. Of several ways to one instruction at one place the
most preferred one goes on alone, which bounds the work at each place by the length of the
program.
-/

namespace LatexFigures.Pattern

/-- A pattern made ready for matching. -/
structure Machine where
  code : Program
  /-- Groups have numbers below this one; the whole match is group 0. -/
  groupBound : Nat
  groupNames : List (String × Nat)
deriving Repr, DecidableEq

/-- The places that a thread has remembered by slot, latest first. -/
abbrev Slots := List (Nat × Nat)

/-- One way through the program, up to an instruction. -/
structure Thread where
  state : Nat
  slots : Slots

/-- The threads at one place. -/
structure Front where
  /-- For each instruction, the number of places up to the last one at which it was entered. -/
  entered : Array Nat
  /-- Those that have to pass a character, or have matched. -/
  threads : Array Thread

namespace Machine

/-- The machine of a pattern. -/
def ofPattern (p : Pattern) : Machine :=
  { code := ((Pattern.group 0 none p).emit #[]).push .accept
    groupBound := p.groupBound
    groupNames := p.groupNames }

/-- Follows the pending threads in their order up to instructions that pass a character or
accept, and adds those to the front. An instruction is entered once at each place, and leads
to at most two others, so (fuel) of twice the length of the program is enough.
-/
def follow (m : Machine) (place : Nat) (before after : Option Char)
    : (fuel : Nat) → (pending : List Thread) → Front → Front
  | 0, _, front => front
  | _, [], front => front
  | fuel + 1, ⟨state, slots⟩ :: pending, ⟨entered, threads⟩ =>
      if entered[state]? = some (place + 1) then
        m.follow place before after fuel pending ⟨entered, threads⟩
      else
        let entered := entered.setIfInBounds state (place + 1)
        match m.code[state]? with
        | none => m.follow place before after fuel pending ⟨entered, threads⟩
        | some (.read _) | some .accept =>
            m.follow place before after fuel pending ⟨entered, threads.push ⟨state, slots⟩⟩
        | some (.check condition) =>
            let pending :=
              if condition.holds before after then ⟨state + 1, slots⟩ :: pending else pending
            m.follow place before after fuel pending ⟨entered, threads⟩
        | some (.mark slot) =>
            let next := ⟨state + 1, (slot, place) :: slots⟩
            m.follow place before after fuel (next :: pending) ⟨entered, threads⟩
        | some (.jump target) =>
            m.follow place before after fuel (⟨target, slots⟩ :: pending) ⟨entered, threads⟩
        | some (.choose preferred other) =>
            m.follow place before after fuel
              (⟨preferred, slots⟩ :: ⟨other, slots⟩ :: pending) ⟨entered, threads⟩

/-- Adds one thread and what it leads to. -/
def enter (m : Machine) (place : Nat) (before after : Option Char) (thread : Thread)
    (front : Front) : Front :=
  m.follow place before after (2 * m.code.size + 2) [thread] front

/-- The thread has matched. -/
def accepts (m : Machine) (thread : Thread) : Bool :=
  match m.code[thread.state]? with
  | some .accept => true
  | _ => false

/-- Lets a thread pass a character, if it can, and adds it to the front behind. -/
def pass (m : Machine) (place : Nat) (c : Char) (after : Option Char) (front : Front)
    (thread : Thread) : Front :=
  match m.code[thread.state]? with
  | some (.read cls) =>
      if cls.contains c then
        m.enter (place + 1) (some c) after ⟨thread.state + 1, thread.slots⟩ front
      else front
  | _ => front

/-- Matches from this place on. As long as nothing has matched, a new thread starts at each
place behind all others. A thread that has matched ends all threads behind it, and (best) holds
the slots of the last one that did.
-/
def run (m : Machine) (place : Nat) (before : Option Char) (best : Option Slots)
    (front : Front) (s : Text) : Option Slots :=
  let front := if best.isSome then front else m.enter place before s.head? ⟨0, []⟩ front
  let ⟨entered, threads⟩ := front
  let best := ((threads.find? m.accepts).map Thread.slots).or best
  match s with
  | [] => best
  | c :: rest =>
      let preferred := threads.takeWhile (!m.accepts ·)
      if best.isSome && preferred.isEmpty then best
      else
        let next := preferred.foldl (m.pass place c rest.head?) ⟨entered, #[]⟩
        m.run (place + 1) (some c) best next rest
termination_by structural s

/-- What a group took. -/
def group? (slots : Slots) (s : Text) (index : Nat) : Option Text.Group := do
  let start ← slots.lookup (startSlot index)
  let stop ← slots.lookup (endSlot index)
  return ⟨start, (s.drop start).take (stop - start)⟩

/-- The leftmost match; of several matches there, the preferred one. -/
def search (m : Machine) : Text.Search := fun before s => do
  let slots ← m.run 0 before none ⟨Array.replicate m.code.size 0, #[]⟩ s
  let start ← slots.lookup (startSlot 0)
  let stop ← slots.lookup (endSlot 0)
  return ⟨start, stop - start, (List.range m.groupBound).map (group? slots s)⟩

/-- The number of the group with this name. -/
def groupNamed? (m : Machine) (name : String) : Option Nat := m.groupNames.lookup name

end Machine

end LatexFigures.Pattern
