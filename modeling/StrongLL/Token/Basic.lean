import StrongLL.Text.Position

/-!
# Tokens

A token is a piece of the input together with the pattern that matched it and
the place where it begins.
-/

namespace StrongLL

/-- Identifier of a token pattern, chosen by whoever declares the vocabulary. -/
abbrev TokenId := Nat

/-- A matched piece of the input. -/
structure Token where
  id : TokenId
  image : String
  position : Position
  deriving DecidableEq, Repr

namespace Token

/-- Characters of an image that a message shows. -/
def shownChars : Nat := 25

/-- A character of an image as a message shows it. -/
def escape : Char → List Char
  | '\n' => ['\\', 'n']
  | '\r' => ['\\', 'r']
  | '\t' => ['\\', 't']
  | '"' => ['\\', '"']
  | char => [char]

/-- An image as a message quotes it: control characters are escaped, and what
follows the first `shownChars` characters is cut off. -/
def quoteImage (image : String) : String :=
  let chars := image.toList
  let ellipsis := if shownChars < chars.length then ['.', '.', '.'] else []
  String.ofList ('"' :: (chars.take shownChars).flatMap escape ++ ellipsis ++ ['"'])

/-- The quoted image, for messages. -/
def shortImage (token : Token) : String := quoteImage token.image

end Token

end StrongLL
