import LatexFigures.Environment.Delimiter

/-! Cutting lines into text and delimiters. Inside a literal environment only its own closing
delimiter counts; everything else is text.
-/

namespace LatexFigures

/-- A piece of a line. -/
inductive Token
  /-- Content, with whether it stands in a literal environment. -/
  | content (text : Text) (literal : Bool)
  | opening (kind : EnvironmentKind) (text : Text)
  | closing (kind : EnvironmentKind) (text : Text)
deriving Repr, DecidableEq

namespace Token

/-- The characters of the line that the token covers. -/
def text : Token → Text
  | .content text _ | .opening _ text | .closing _ text => text

/-- The environment in force behind the token, given the one before it. Closing any
environment leads back to running text.
-/
def leadsTo (current : EnvironmentKind) : Token → EnvironmentKind
  | .content .. => current
  | .opening kind _ => kind
  | .closing .. => .math

end Token

namespace DelimiterTable

/-- The opening delimiter at the head of a text. -/
def opening? (table : DelimiterTable) (current : EnvironmentKind) (s : Text)
    : Option (Token × Text) :=
  if current.isLiteral then none
  else
    table.entries.findSome? fun d =>
      (d.splitBegin? s).map fun (text, rest) => (.opening d.kind text, rest)

/-- The closing delimiter at the head of a text. -/
def closing? (table : DelimiterTable) (current : EnvironmentKind) (s : Text)
    : Option (Token × Text) :=
  table.entries.findSome? fun d =>
    if current.isLiteral && d.kind ≠ current then none
    else (d.splitEnd? s).map fun (text, rest) => (.closing d.kind text, rest)

/-- The delimiter that counts at the head of a text. -/
def delimiter? (table : DelimiterTable) (current : EnvironmentKind) (s : Text)
    : Option (Token × Text) :=
  (table.opening? current s).or (table.closing? current s)

/-- The leftmost delimiter that counts, between what stands before and behind it. -/
def nextDelimiter? (table : DelimiterTable) (current : EnvironmentKind)
    : Text → Option (Text × Token × Text)
  | [] => none
  | c :: rest =>
      match table.delimiter? current (c :: rest) with
      | some (token, behind) => some ([], token, behind)
      | none =>
          (table.nextDelimiter? current rest).map fun (before, found) => (c :: before, found)

/-- Content as a token, if there is any. -/
def contentToken (current : EnvironmentKind) (s : Text) : List Token :=
  if s.isEmpty then [] else [.content s current.isLiteral]

/-- Cuts a text that holds at most (most) delimiters, and gives the environment in force at its
end.
-/
def scanUpTo (table : DelimiterTable)
    : (most : Nat) → EnvironmentKind → Text → List Token × EnvironmentKind
  | 0, current, s => (contentToken current s, current)
  | most + 1, current, s =>
      match table.nextDelimiter? current s with
      | none => (contentToken current s, current)
      | some (before, token, behind) =>
          let (tokens, last) := table.scanUpTo most (token.leadsTo current) behind
          (contentToken current before ++ token :: tokens, last)

/-- Cuts a line into tokens, given the environment in force before it, and gives the one in
force behind it. No line holds more delimiters than characters.
-/
def scan (table : DelimiterTable) (current : EnvironmentKind) (line : Text)
    : List Token × EnvironmentKind :=
  table.scanUpTo line.length current line

/-- Cuts line after line. -/
def scanLines (table : DelimiterTable)
    : EnvironmentKind → List Text → List (List Token × EnvironmentKind)
  | _, [] => []
  | current, line :: lines =>
      let result := table.scan current line
      result :: table.scanLines result.2 lines

end DelimiterTable

end LatexFigures
