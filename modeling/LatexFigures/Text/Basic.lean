/-! Texts as lists of characters, with the few cuts that readers of this library make.
Offsets and lengths count bytes of the UTF-8 form.
-/

namespace LatexFigures

/-- A piece of document text. -/
abbrev Text := List Char

namespace Text

/-- The length of the UTF-8 form. -/
def byteSize : Text → Nat
  | [] => 0
  | c :: rest => c.utf8Size + byteSize rest

/-- Unicode white space. -/
def isBlank (c : Char) : Bool :=
  ('\t' ≤ c && c ≤ '\r') || c == ' ' || c == '\x85' || c == '\xa0' || c == '\u1680'
    || ('\u2000' ≤ c && c ≤ '\u200a') || c == '\u2028' || c == '\u2029' || c == '\u202f'
    || c == '\u205f' || c == '\u3000'

/-- ASCII white space, which is what patterns mean by a space. -/
def isSpace (c : Char) : Bool := ('\t' ≤ c && c ≤ '\r') || c == ' '

/-- Drops the last characters as long as they satisfy (p). -/
def dropEndWhile (p : Char → Bool) (s : Text) : Text := (s.reverse.dropWhile p).reverse

/-- Drops white space at both ends. -/
def trim (s : Text) : Text := dropEndWhile isBlank (s.dropWhile isBlank)

/-- Holds nothing but white space. -/
def isAllBlank (s : Text) : Bool := s.all isBlank

/-- The parts before and after the first (mark). -/
def splitFirst? (mark : Char) : Text → Option (Text × Text)
  | [] => none
  | c :: rest =>
      if c = mark then some ([], rest)
      else (splitFirst? mark rest).map fun (before, after) => (c :: before, after)

/-- The parts before and after the last (mark). -/
def splitLast? (mark : Char) : Text → Option (Text × Text)
  | [] => none
  | c :: rest =>
      match splitLast? mark rest with
      | some (before, after) => some (c :: before, after)
      | none => if c = mark then some ([], rest) else none

/-- The parts between the marks; one more than there are marks. -/
def splitAll (mark : Char) : Text → List Text
  | [] => [[]]
  | c :: rest =>
      if c = mark then [] :: splitAll mark rest
      else
        match splitAll mark rest with
        | [] => [[c]]
        | part :: parts => (c :: part) :: parts

/-- What follows (start) at the head of (s). -/
def after? (start s : Text) : Option Text := start.isPrefixOf? s

/-- (part) stands somewhere in (s). -/
def holds (part : Text) : Text → Bool
  | [] => part.isEmpty
  | c :: rest => part.isPrefixOf (c :: rest) || holds part rest

/-- The characters of (s) in front of (rest), a tail of it. -/
def upTo (s rest : Text) : Text := s.take (s.length - rest.length)

end Text

end LatexFigures
