/-!
Styled text: pieces of text, each in a style or in none. A terminal that shows styles is told by an
escape sequence before and after each styled piece; without styles the pieces are written one after
the other.
-/

namespace Seek.Text

/-- How a piece of text is to look. -/
inductive Style where
  | boldRed
  | yellow
  | blue
  | bold
  | italic
  | dim
  deriving DecidableEq, Repr

/-- The parameter of the escape sequence that sets the style. -/
def Style.code : Style → String
  | .boldRed => "1;31"
  | .yellow => "33"
  | .blue => "34"
  | .bold => "1"
  | .italic => "3"
  | .dim => "2"

/-- A piece of text. -/
structure Piece where
  style : Option Style
  text : String
  deriving DecidableEq, Repr

namespace Piece

/-- A piece without style. -/
def plain (text : String) : Piece := ⟨none, text⟩

/-- A piece in a style. -/
def styled (style : Style) (text : String) : Piece := ⟨some style, text⟩

/-- The escape sequence with this parameter. -/
def sequence (code : String) : String := "\x1b[" ++ code ++ "m"

/-- The piece as written, with its style if `isStyled`. -/
def render (isStyled : Bool) (piece : Piece) : String :=
  match piece.style with
  | none => piece.text
  | some style =>
    if isStyled then sequence style.code ++ piece.text ++ sequence "0" else piece.text

end Piece

/-- The pieces as written, one after the other. -/
def render (isStyled : Bool) (pieces : List Piece) : String :=
  String.join (pieces.map (Piece.render isStyled))

end Seek.Text
