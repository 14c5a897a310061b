import StrongLL.Report.Diagnostic
import StrongLL.Text.Source
import StrongLL.Unicode.Shorthand
import StrongLL.Unicode.Width

/-!
# Rendered logs

A diagnostic with a place is shown with the line it stands on and carets below
the character; without a source text only its wording is shown. Places are
found by their byte offset, and an offset beyond the text stands for its end.
-/

namespace StrongLL

/-- How a log is rendered. -/
structure RenderStyle where
  source : Option String := none
  path : Option String := none
  colored : Bool := false
  deriving Repr

namespace Snippet

/-- A character of a source, or its end, with the line around it. -/
structure Spot where
  line : Nat
  column : Nat
  /-- The whole line, without its line end. -/
  text : List Char
  /-- The part of the line before the character. -/
  before : List Char
  /-- The character, or none at the end of the source. -/
  char : Option Char
  /-- The next line, if the character is the line feed in front of it. -/
  below : Option (List Char)

/-- A line without the carriage return that belongs to its line feed. -/
def withoutReturn (line : List Char) : List Char :=
  if line.getLast? = some '\r' then line.dropLast else line

/-- The first line of a text, without its line end. -/
def firstLine (text : List Char) : List Char :=
  let line := text.takeWhile (· ≠ '\n')
  if line.length < text.length then withoutReturn line else line

/-- Walk to the character that covers the byte `offset`. `line` counts from
one, `before` is the part of the line passed so far in reverse. -/
def walk (line : Nat) (before : List Char) : (offset : Nat) → List Char → Spot
  | _, [] => ⟨line, before.length + 1, before.reverse, before.reverse, none, none⟩
  | offset, char :: rest =>
      if offset < char.utf8Size then
        let text := firstLine (before.reverse ++ char :: rest)
        let below := if char = '\n' ∧ rest ≠ [] then some (firstLine rest) else none
        ⟨line, before.length + 1, text, before.reverse.take text.length, some char, below⟩
      else if char = '\n' then
        match rest with
        | [] =>
            -- Nothing follows the last line feed, so the line before it is shown.
            let text := withoutReturn before.reverse
            ⟨line, text.length + 2, text, text, none, none⟩
        | _ => walk (line + 1) [] (offset - char.utf8Size) rest
      else
        walk line (char :: before) (offset - char.utf8Size) rest

/-- The character at a byte offset. -/
def spotAt (source : List Char) (offset : Nat) : Spot := walk 1 [] offset source

/-- What stands for a character that would move the cursor of a terminal:
pictures for control characters, blanks for a tab, nothing for a joiner, and the
replacement character for changes of direction. -/
def shown (char : Char) : List Char :=
  if char = '\t' then [' ', ' ', ' ', ' ']
  else if char = '\n' then [char]
  else if char < ' ' then [Char.ofNat (char.toNat + 0x2400)]
  else if char = '\x7f' then ['\u2421']
  else if char = '\u200d' then []
  else if ('\u202a' ≤ char ∧ char ≤ '\u202e') ∨ ('\u2066' ≤ char ∧ char ≤ '\u2069') then
    ['\ufffd']
  else [char]

/-- A text as it is shown. -/
def display (text : List Char) : List Char := text.flatMap shown

/-- Number of columns before a character. -/
def columnsBefore (spot : Spot) : Nat := Unicode.Width.ofText (display spot.before)

/-- Number of carets below a character. -/
def caretCount : Option Char → Nat
  | some '\n' | none => 1
  | some char => max 1 (Unicode.Width.ofText (shown char))

/-- `count` copies of a character. -/
def copies (count : Nat) (char : Char) : String := String.ofList (List.replicate count char)

/-- Wrap a text into the colour `code` of a terminal, in bold. -/
def paint (colored : Bool) (code : String) (text : String) : String :=
  if colored then "\x1b[1m" ++ code ++ text ++ "\x1b[0m" else text

/-- Frames and line numbers. -/
def paintFrame (colored : Bool) : String → String := paint colored "\x1b[94m"

/-- What is reported. -/
def paintError (colored : Bool) : String → String := paint colored "\x1b[91m"

/-- A text as it is shown, behind a space, or nothing. -/
def spaced (text : List Char) : String :=
  if text.isEmpty then "" else " " ++ String.ofList (display text)

/-- The first line of a report. Further lines of the message stand below the
first one. -/
def title (colored : Bool) (message : String) : String :=
  let (complete, last) := splitLines '\n' [] (display message.toList)
  let lines := complete.map List.dropLast ++ if last.isEmpty then [] else [last]
  let painted := match lines with
    | [] => [paint colored "" ": "]
    | first :: rest =>
        paint colored "" (": " ++ String.ofList first) ::
          rest.map fun line => copies 7 ' ' ++ paint colored "" (String.ofList line)
  paintError colored "error" ++ "\n".intercalate painted

/-- The lines that show a character, with carets and a label below. A line feed
is shown as the way from the end of its line to the beginning of the next one.
`numbered` begins a line with its number, `bar` begins one without. -/
def excerpt (colored : Bool) (numbered : Nat → String) (bar label : String) (spot : Spot) :
    List String :=
  let paintError := paintError colored
  let columns := columnsBefore spot
  match spot.below with
  | none =>
      [numbered spot.line ++ spaced spot.text,
        bar ++ " " ++ copies columns ' ' ++ paintError (copies (caretCount spot.char) '^') ++
          label]
  | some next =>
      let first :=
        if spot.before.all Unicode.whiteSpace.contains then
          [numbered spot.line ++ " " ++ paintError "/" ++ spaced spot.text]
        else
          [numbered spot.line ++ "  " ++ spaced spot.text,
            bar ++ " " ++ paintError (" " ++ copies (columns + 1) '_' ++ "^")]
      first ++
        [numbered (spot.line + 1) ++ " " ++ paintError "|" ++ spaced next,
          bar ++ " " ++ paintError "|_^" ++ label]

/-- A diagnostic with the line it stands on. -/
def render (style : RenderStyle) (source : String) (message : String) (offset : Nat) : String :=
  let spot := spotAt source.toList offset
  let lastLine := if spot.below.isSome then spot.line + 1 else spot.line
  let margin := copies (toString lastLine).length ' '
  let frame := paintFrame style.colored
  let numbered (line : Nat) :=
    let number := toString line
    frame (copies (margin.length - number.length) ' ' ++ number) ++ " " ++ frame "|"
  let bar := margin ++ " " ++ frame "|"
  let arrow := match style.path with
    | none => []
    | some path =>
        [margin ++ frame "--> " ++ path ++ ":" ++ toString spot.line ++ ":" ++
          toString spot.column]
  let label :=
    if message.isEmpty then ""
    else " " ++ paintError style.colored (String.ofList (display message.toList))
  "\n".intercalate
    ([title style.colored message] ++ arrow ++ [bar] ++
      excerpt style.colored numbered bar label spot)

end Snippet

namespace Log

/-- One diagnostic as it appears in a rendered log. -/
def renderOne (style : RenderStyle) (diagnostic : Diagnostic) : String :=
  match style.source with
  | none => diagnostic.text
  | some source =>
      match diagnostic.position with
      | none => "error: " ++ diagnostic.message ++ "\n"
      | some position => Snippet.render style source diagnostic.message position.offset

/-- A log as it is shown to people. -/
def render (style : RenderStyle) (log : Log) : String :=
  "\n".intercalate (log.map (renderOne style))

end Log

end StrongLL
