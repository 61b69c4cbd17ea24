import LatexFigures.Ordered
import LatexFigures.Registration

/-! The delimiters of environments, and the table of those that are registered. The groups in
brackets and parentheses behind an opening mark belong to the delimiter.
-/

namespace LatexFigures

/-- The delimiters of one environment. -/
structure Delimiter where
  kind : EnvironmentKind
  named : isEnvironmentName kind.tag = true
deriving DecidableEq

namespace Delimiter

/-- The pattern of the groups that may stand behind an opening mark: one in brackets, then any
number of them in parentheses.
-/
def argumentsPattern : Text := "(?:\\s*\\[[^\\]]*\\])?(?:\\s*\\([^)]*\\))*".toList

/-- The delimiters of a kind, unless its name cannot be one or their patterns are refused. What
the patterns match is cut off by (splitBegin?) and (splitEnd?) below.
-/
def ofKind (kind : EnvironmentKind) : Except RegistryError Delimiter := do
  if h : isEnvironmentName kind.tag = true then
    let _ ← Pattern.compile kind.tag (markPattern "begin" kind.tag ++ argumentsPattern)
    let _ ← Pattern.compile kind.tag (markPattern "end" kind.tag)
    return ⟨kind, h⟩
  else throw (.invalidName kind.tag)

/-- Cuts a group off, with the spaces before it: (opening), then characters up to the first
(closing).
-/
def splitGroup? (opening closing : Char) (s : Text) : Option (Text × Text) :=
  match s.dropWhile Text.isSpace with
  | [] => none
  | c :: rest =>
      if c = opening then
        (Text.splitFirst? closing rest).map fun (inner, rest) =>
          (s.takeWhile Text.isSpace ++ c :: inner ++ [closing], rest)
      else none

/-- Cuts groups in parentheses off, at most (most) of them. -/
def splitGroups : (most : Nat) → Text → Text × Text
  | 0, s => ([], s)
  | most + 1, s =>
      match splitGroup? '(' ')' s with
      | some (group, rest) =>
          let (groups, rest) := splitGroups most rest
          (group ++ groups, rest)
      | none => ([], s)

/-- Cuts off what may stand behind an opening mark: one group in brackets, then any number of
groups in parentheses.
-/
def splitArguments (s : Text) : Text × Text :=
  let (options, rest) := (splitGroup? '[' ']' s).getD ([], s)
  let (groups, rest) := splitGroups rest.length rest
  (options ++ groups, rest)

/-- Cuts the opening delimiter off the head of a text. -/
def splitBegin? (d : Delimiter) (s : Text) : Option (Text × Text) :=
  (Text.after? (beginMark d.kind.tag) s).map fun rest =>
    let (arguments, rest) := splitArguments rest
    (beginMark d.kind.tag ++ arguments, rest)

/-- Cuts the closing delimiter off the head of a text. -/
def splitEnd? (d : Delimiter) (s : Text) : Option (Text × Text) :=
  (Text.after? (endMark d.kind.tag) s).map fun rest => (endMark d.kind.tag, rest)

end Delimiter

/-- The registered delimiters, of which no two have the same name. -/
structure DelimiterTable where
  entries : List Delimiter := []
  distinct : (entries.map (·.kind.tag)).Nodup := by simp
deriving DecidableEq

namespace DelimiterTable

/-- Adds delimiters; others of the same name are replaced in place. -/
def insert (table : DelimiterTable) (d : Delimiter) : DelimiterTable :=
  ⟨Ordered.put (·.kind.tag) d table.entries, Ordered.nodup_put _ table.distinct d⟩

/-- The kinds in the order of their registration. -/
def kinds (table : DelimiterTable) : List EnvironmentKind := table.entries.map (·.kind)

/-- The environments that every document knows, in this order. -/
def defaultNames : List String :=
  ["pspicture", "verbatim", "print", "enumerate", "nicebox", "macros"]

/-- Adds the environment (name), if it has delimiters. -/
def register (name : String) (literal : Bool) : Registration DelimiterTable Unit := do
  let d ← Delimiter.ofKind (.named name literal)
  modify (·.insert d)

/-- The table of the environments that every document knows. Names that are refused are passed
over.
-/
def standard : DelimiterTable :=
  defaultNames.foldl (fun table name => ((register name false).run table).2) {}

end DelimiterTable

end LatexFigures
