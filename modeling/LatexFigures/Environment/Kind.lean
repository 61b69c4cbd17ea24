import LatexFigures.Text.Basic
import LatexFigures.Text.Quoted

/-! Kinds of environments, and the names that may be registered. -/

namespace LatexFigures

/-- Why a registration is refused. -/
inductive RegistryError
  | invalidName (name : String)
  /-- The pattern of this rule is not well formed. -/
  | invalidPattern (rule : String)
deriving Repr, DecidableEq

/-- The wording of a refusal. -/
def RegistryError.message : RegistryError → String
  | .invalidName name => "invalid environment name: " ++ Text.Quoted.encode name
  | .invalidPattern rule => "invalid pattern for rule " ++ rule

/-- The kind of an environment. -/
inductive EnvironmentKind
  /-- Running text outside of any environment. -/
  | math
  | verbatim
  | print
  | figure
  | enumerate
  | nicebox
  | macros
  | custom (name : String) (literal : Bool)
deriving Repr, DecidableEq

namespace EnvironmentKind

/-- The kind with this name. Built-in names keep their own kind, whatever (literal) says. -/
def named (name : String) (literal : Bool) : EnvironmentKind :=
  match name with
  | "math" => .math
  | "verbatim" => .verbatim
  | "print" => .print
  | "pspicture" => .figure
  | "enumerate" => .enumerate
  | "nicebox" => .nicebox
  | "macros" => .macros
  | name => .custom name literal

/-- The name of the environment. -/
def tag : EnvironmentKind → String
  | .math => "math"
  | .verbatim => "verbatim"
  | .print => "print"
  | .figure => "pspicture"
  | .enumerate => "enumerate"
  | .nicebox => "nicebox"
  | .macros => "macros"
  | .custom name _ => name

/-- What stands inside is never interpreted or substituted. -/
def isLiteral : EnvironmentKind → Bool
  | .verbatim | .print => true
  | .custom _ literal => literal
  | _ => false

/-- A drawing. -/
def isFigure (kind : EnvironmentKind) : Bool := kind = .figure

/-- A kind that is not built in. -/
def isCustom : EnvironmentKind → Bool
  | .custom .. => true
  | _ => false

end EnvironmentKind

/-- May stand in the name of an environment: no brace and no white space. -/
def isNameChar (c : Char) : Bool := c != '\x7b' && c != '\x7d' && !Text.isBlank c

/-- A name that an environment may have. -/
def isEnvironmentName (name : String) : Bool :=
  !name.toList.isEmpty && name.toList.all isNameChar

/-- A name that a block header may have: white space is fine. -/
def isHeaderName (name : String) : Bool :=
  !name.toList.isEmpty && name.toList.all fun c => c != '\x7b' && c != '\x7d'

/-- The text that opens the environment (name). -/
def beginMark (name : String) : Text := "\\begin\x7b".toList ++ name.toList ++ ['\x7d']

/-- The text that closes the environment (name). -/
def endMark (name : String) : Text := "\\end\x7b".toList ++ name.toList ++ ['\x7d']

end LatexFigures
