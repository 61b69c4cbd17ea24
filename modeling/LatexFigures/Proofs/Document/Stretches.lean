import LatexFigures.Proofs.Document.Conservation

/-! The stretches between the delimiters of a document. One environment is in force throughout each,
and the content in it is marked accordingly.
-/

namespace LatexFigures.Document

-----------------------------------------------------------------------------------------
-- Stretches
-----------------------------------------------------------------------------------------

/-- The delimiter that an item is, if it is one. -/
def Item.delimiter? : Item → Option Token
  | .blank => none
  | .token _ piece => if piece.isDelimiter then some piece else none

/-- What stands between two delimiters, or between one and an end of the document: the tokens in
front, the last of which opens the stretch, and the items inside.
-/
structure Stretch where
  before : List Token := []
  inside : List Item := []

namespace Stretch

/-- The environment in force. -/
def kind (stretch : Stretch) : EnvironmentKind := Token.inForceAfter stretch.before

/-- All tokens in front of the delimiter that closes the stretch. -/
def upToEnd (stretch : Stretch) : List Token :=
  stretch.before ++ stretch.inside.filterMap Item.token?

/-- The stretch with one item more. -/
def push (stretch : Stretch) (item : Item) : Stretch :=
  { stretch with inside := stretch.inside ++ [item] }

/-- The stretch behind this one and the delimiter that closes it. -/
def next (stretch : Stretch) (delimiter : Token) : Stretch :=
  { before := stretch.upToEnd ++ [delimiter] }

end Stretch

/-- The stretches of items behind the beginning of the first one. -/
def stretchesFrom (stretch : Stretch) : List Item → List Stretch
  | [] => [stretch]
  | item :: items =>
      match item.delimiter? with
      | some delimiter => stretch :: stretchesFrom (stretch.next delimiter) items
      | none => stretchesFrom (stretch.push item) items

/-- The stretches of a document. -/
def stretches (table : DelimiterTable) (s : Text) : List Stretch :=
  stretchesFrom {} (items table s)

theorem stretchesFrom_delimiter {delimiter : Token} (marks : delimiter.isDelimiter = true)
    (stretch : Stretch) (line : Text.Line) (items : List Item)
    : stretchesFrom stretch (.token line delimiter :: items)
      = stretch :: stretchesFrom (stretch.next delimiter) items := by
  simp [stretchesFrom, Item.delimiter?, marks]

-----------------------------------------------------------------------------------------
-- Where a stretch stands
-----------------------------------------------------------------------------------------

theorem inForceAfter_append_singleton (tokens : List Token) (token : Token)
    : Token.inForceAfter (tokens ++ [token]) = token.leadsTo (Token.inForceAfter tokens) := by
  simp only [Token.inForceAfter_eq_foldl, List.foldl_append, List.foldl_cons, List.foldl_nil]

/-- The stretch stands among these items and has come as far as (back): it begins behind a delimiter
or where they begin, no delimiter is inside, and content in it is marked as literal exactly if its
environment is.
-/
structure Stretch.StandsBefore (all back : List Item) (stretch : Stretch) : Prop where
  begins
    : ∃ front : List Item,
        all = front ++ (stretch.inside ++ back)
        ∧ front.filterMap Item.token? = stretch.before
        ∧ ∀ item ∈ front.getLast?, item.delimiter?.isSome
  inner : ∀ item ∈ stretch.inside, item.delimiter? = none
  flagged
    : ∀ line text literal, .token line (.content text literal) ∈ stretch.inside
      → literal = stretch.kind.isLiteral

/-- The whole stretch: it ends in front of a delimiter or where the items end. -/
def Stretch.StandsIn (all : List Item) (stretch : Stretch) : Prop :=
  ∃ back, stretch.StandsBefore all back ∧ ∀ item ∈ back.head?, item.delimiter?.isSome

theorem Stretch.next_kind (stretch : Stretch) (delimiter : Token)
    : (stretch.next delimiter).kind
      = delimiter.leadsTo (Token.inForceAfter stretch.upToEnd) := by
  rw [kind, next, inForceAfter_append_singleton]

theorem Stretch.next_upToEnd (stretch : Stretch) (delimiter : Token)
    : (stretch.next delimiter).upToEnd = stretch.upToEnd ++ [delimiter] := by
  simp [upToEnd, next]

variable {stretch : Stretch}

/-- Items without a delimiter leave the environment in force. -/
theorem Stretch.inForceAfter_upToEnd (inner : ∀ item ∈ stretch.inside, item.delimiter? = none)
    : Token.inForceAfter stretch.upToEnd = stretch.kind := by
  obtain ⟨before, inside⟩ := stretch
  simp only [kind, upToEnd, Token.inForceAfter_eq_foldl, List.foldl_append] at inner ⊢
  induction inside with
  | nil => rfl
  | cons item inside ih =>
      obtain ⟨undelimited, others⟩ := List.forall_mem_cons.mp inner
      cases item with
      | blank => exact ih others
      | token line piece =>
          cases piece with
          | content text literal => exact ih others
          | opening | closing => simp [Item.delimiter?, Token.isDelimiter] at undelimited

section Run

variable {table : DelimiterTable} {all back : List Item}

/-- An item that fits the environment in force and is no delimiter belongs to the stretch. -/
theorem Stretch.StandsBefore.push {item : Item} (h : stretch.StandsBefore all (item :: back))
    (undelimited : item.delimiter? = none)
    (fits : ∀ token ∈ item.token?, table.Fits stretch.kind token)
    : (stretch.push item).StandsBefore all back := by
  obtain ⟨⟨front, whole, before, opened⟩, inner, flagged⟩ := h
  refine ⟨⟨front, by simpa [Stretch.push] using whole, before, opened⟩, ?_, ?_⟩
  · intro other member
    rcases List.mem_append.mp member with earlier | last
    · exact inner other earlier
    · rwa [List.mem_singleton.mp last]
  · intro line text literal member
    rcases List.mem_append.mp member with earlier | last
    · exact flagged line text literal earlier
    · exact (fits (.content text literal) (by rw [← List.mem_singleton.mp last]; rfl)).2.1

/-- Behind a delimiter the next stretch begins. -/
theorem Stretch.StandsBefore.next {line : Text.Line} {delimiter : Token}
    (h : stretch.StandsBefore all (.token line delimiter :: back))
    (marks : delimiter.isDelimiter = true)
    : (stretch.next delimiter).StandsBefore all back := by
  obtain ⟨⟨front, whole, before, -⟩, -⟩ := h
  refine ⟨⟨front ++ stretch.inside ++ [.token line delimiter], ?_, ?_, ?_⟩, ?_, ?_⟩
  · simp [whole, Stretch.next]
  · simp [List.filterMap_append, before, Stretch.next, Stretch.upToEnd, Item.token?]
  · simp [Item.delimiter?, marks]
  · simp [Stretch.next]
  · simp [Stretch.next]

/-- The stretches of items stand among them, by induction on those that are left. -/
theorem standsIn_of_mem_stretchesFrom (h : stretch.StandsBefore all back)
    (fits : table.Fitting stretch.kind (back.filterMap Item.token?))
    : ∀ found ∈ stretchesFrom stretch back, found.StandsIn all := by
  induction back generalizing stretch with
  | nil =>
      intro found member
      obtain rfl := List.mem_singleton.mp member
      exact ⟨[], h, by simp⟩
  | cons item back ih =>
      cases item with
      | blank =>
          have nothing : ∀ token ∈ Item.blank.token?, table.Fits stretch.kind token := by
            simp [Item.token?]
          exact ih (h.push rfl nothing) fits
      | token line piece =>
          obtain ⟨here, later⟩ := fits
          cases marks : piece.isDelimiter with
          | true =>
              -- the environment of the stretch is in force up to its end
              rw [← Stretch.inForceAfter_upToEnd h.inner, ← Stretch.next_kind] at later
              rw [stretchesFrom_delimiter marks]
              intro found member
              rcases List.mem_cons.mp member with rfl | behind
              · exact ⟨_, h, by simp [Item.delimiter?, marks]⟩
              · exact ih (h.next marks) later found behind
          | false =>
              have undelimited : Item.delimiter? (.token line piece) = none := by
                simp [Item.delimiter?, marks]
              have pushed := h.push undelimited (by simpa [Item.token?] using here)
              rw [stretchesFrom, undelimited]
              refine ih pushed ?_
              cases piece with
              | content => exact later
              | opening | closing => cases marks

end Run

theorem fitting_items (table : DelimiterTable) (s : Text)
    : table.Fitting .math ((items table s).filterMap Item.token?) := by
  rw [items_tokens]
  exact DelimiterTable.fitting_scanLines ..

theorem Stretch.StandsIn.flagged {all : List Item} (stands : stretch.StandsIn all)
    {line : Text.Line} {text : Text} {literal : Bool}
    (inside : .token line (.content text literal) ∈ stretch.inside)
    : literal = stretch.kind.isLiteral := by
  obtain ⟨back, before, -⟩ := stands
  exact before.flagged line text literal inside

/-- All in front of the end of a stretch stands in front in the document. -/
theorem Stretch.StandsIn.upToEnd_prefix {table : DelimiterTable} {s : Text}
    (stands : stretch.StandsIn (items table s))
    : stretch.upToEnd <+: tokens table s := by
  obtain ⟨back, ⟨⟨front, whole, before, -⟩, -⟩, -⟩ := stands
  refine ⟨back.filterMap Item.token?, ?_⟩
  rw [← items_tokens, whole, List.filterMap_append, List.filterMap_append, before,
    Stretch.upToEnd, List.append_assoc]

theorem standsIn_of_mem_stretches {table : DelimiterTable} {s : Text}
    (member : stretch ∈ stretches table s)
    : stretch.StandsIn (items table s) := by
  have start : ({} : Stretch).StandsBefore (items table s) (items table s) :=
    ⟨⟨[], rfl, rfl, by simp⟩, by simp, by simp⟩
  exact standsIn_of_mem_stretchesFrom start (fitting_items table s) stretch member

end LatexFigures.Document
