import StrongLL.Regex.Ast
import StrongLL.Regex.Expr
import StrongLL.Text.CharClass.Caseless
import StrongLL.Unicode.Shorthand
import StrongLL.Unicode.Property

/-!
# The meaning of written expressions

Flags are carried from left to right and end with the group they stand in.
Classes are evaluated under the flags that hold where they stand. Without the
Unicode flag an expression speaks of bytes, and since only valid text is ever
matched, whatever could match a byte of a longer character is refused.
-/

namespace StrongLL.Regex

/-- The flags that bear on the meaning. -/
structure Flags where
  caseInsensitive : Bool := false
  multiLine : Bool := false
  dotMatchesNewLine : Bool := false
  unicode : Bool := true
  crlf : Bool := false
  deriving DecidableEq, Repr

namespace Flags

/-- Switch a flag on or off. -/
def set (flags : Flags) : Flag × Bool → Flags
  | (.caseInsensitive, enabled) => { flags with caseInsensitive := enabled }
  | (.multiLine, enabled) => { flags with multiLine := enabled }
  | (.dotMatchesNewLine, enabled) => { flags with dotMatchesNewLine := enabled }
  | (.unicode, enabled) => { flags with unicode := enabled }
  | (.crlf, enabled) => { flags with crlf := enabled }
  | (.swapGreed, _) | (.verbose, _) => flags

/-- Make changes in the order written. -/
def apply (flags : Flags) (changes : FlagChanges) : Flags := changes.foldl set flags

/-! ## Classes -/

/-- The ASCII class of ranges of code points. -/
def asciiClass (ranges : List (Nat × Nat)) : CharClass :=
  .ofEnds (ranges.map fun (lo, hi) => (Char.ofNat lo, Char.ofNat hi))

/-- The members of a named class. -/
def posixMembers : PosixClass → CharClass
  | .alnum => asciiClass [(0x30, 0x39), (0x41, 0x5A), (0x61, 0x7A)]
  | .alpha => asciiClass [(0x41, 0x5A), (0x61, 0x7A)]
  | .ascii => asciiClass [(0x00, 0x7F)]
  | .blank => asciiClass [(0x09, 0x09), (0x20, 0x20)]
  | .cntrl => asciiClass [(0x00, 0x1F), (0x7F, 0x7F)]
  | .digit => asciiClass [(0x30, 0x39)]
  | .graph => asciiClass [(0x21, 0x7E)]
  | .lower => asciiClass [(0x61, 0x7A)]
  | .print => asciiClass [(0x20, 0x7E)]
  | .punct => asciiClass [(0x21, 0x2F), (0x3A, 0x40), (0x5B, 0x60), (0x7B, 0x7E)]
  | .space => asciiClass [(0x09, 0x0D), (0x20, 0x20)]
  | .upper => asciiClass [(0x41, 0x5A)]
  | .word => asciiClass [(0x30, 0x39), (0x41, 0x5A), (0x5F, 0x5F), (0x61, 0x7A)]
  | .xdigit => asciiClass [(0x30, 0x39), (0x41, 0x46), (0x61, 0x66)]

/-- The members of a class with an escape of one letter. -/
def shorthandMembers (unicode : Bool) : Shorthand → CharClass
  | .digit => if unicode then Unicode.digit else posixMembers .digit
  | .space => if unicode then Unicode.whiteSpace else posixMembers .space
  | .word => if unicode then Unicode.word else posixMembers .word

/-- The class with the other case of each ASCII letter in it. -/
def foldAscii (charClass : CharClass) : CharClass :=
  let letters := (List.range 26).flatMap fun index =>
    [(Char.ofNat (0x41 + index), Char.ofNat (0x61 + index)),
     (Char.ofNat (0x61 + index), Char.ofNat (0x41 + index))]
  let added := letters.filter fun (char, _) => charClass.contains char
  charClass.union (.ofRanges (added.map fun (_, other) => .single other))

/-- The class with all that differs from a member by case only, if case does
not matter. -/
def fold (flags : Flags) (charClass : CharClass) : CharClass :=
  if flags.caseInsensitive then
    if flags.unicode then charClass.foldCase else foldAscii charClass
  else charClass

/-- The complement of a class, if it is negated. Among bytes it always contains
some that are no characters. -/
def negate (flags : Flags) (negated : Bool) (charClass : CharClass) :
    Except Fault CharClass :=
  if negated then
    if flags.unicode then .ok charClass.complement else .error .invalidUtf8
  else .ok charClass

/-- The character that a literal stands for, anywhere in an expression. -/
def scalar (flags : Flags) (literal : Literal) : Except Fault Char :=
  if !flags.unicode && literal.isByte && 0x7F < literal.char.toNat then .error .invalidUtf8
  else .ok literal.char

/-- The character that a literal stands for inside a class. -/
def member (flags : Flags) (literal : Literal) : Except Fault Char := do
  let char ← flags.scalar literal
  if !flags.unicode && 0x7F < char.toNat then throw .unicodeNotAllowed
  return char

/-- The characters with a property. -/
def property (flags : Flags) (query : PropertyQuery) : Except Fault CharClass :=
  if !flags.unicode then .error .unicodeNotAllowed
  else
    let named (name : String) : Except Fault CharClass :=
      match Unicode.Property.byName? name with
      | some charClass => .ok charClass
      | none => .error .propertyNotFound
    match query with
    | .letter char => named char.toString
    | .name name => named name
    | .value name value =>
        match Unicode.Property.byValue name value with
        | .ok charClass => .ok charClass
        | .error .property => .error .propertyNotFound
        | .error .value => .error .propertyValueNotFound

/-- Combine two classes. -/
def combine : ClassOperator → CharClass → CharClass → CharClass
  | .intersection => .inter
  | .difference => .difference
  | .symmetricDifference => .symmetricDifference

mutual
/-- The members of a class. Case is folded before a class is negated. -/
def members (flags : Flags) : ClassTree → Except Fault CharClass
  | .empty => .ok .empty
  | .literal literal => do return .single (← flags.member literal)
  | .range first last => do
      let first ← flags.member first
      let last ← flags.member last
      return .ofEnds [(first, last)]
  | .posix name negated => flags.negate negated (flags.fold (posixMembers name))
  | .property query negated => do
      flags.negate negated (flags.fold (← flags.property query))
  | .shorthand name negated => flags.negate negated (shorthandMembers flags.unicode name)
  | .bracket negated inner => do
      flags.negate negated (flags.fold (← members flags inner))
  | .union parts => membersOf flags parts
  | .combine operator left right => do
      let left ← members flags left
      let right ← members flags right
      return combine operator (flags.fold left) (flags.fold right)

/-- The members of any of several classes. -/
def membersOf (flags : Flags) : List ClassTree → Except Fault CharClass
  | [] => .ok .empty
  | part :: rest => do
      let members ← members flags part
      return members.union (← membersOf flags rest)
end

/-! ## Expressions -/

/-- The expression of a literal. -/
def literal (flags : Flags) (literal : Literal) : Except Fault Expr := do
  let char ← flags.scalar literal
  return .ofClass (flags.fold (.single char))

/-- The expression of a dot. -/
def dot (flags : Flags) : Except Fault Expr :=
  if !flags.unicode then .error .invalidUtf8
  else if flags.dotMatchesNewLine then .ok (.charClass .all)
  else if flags.crlf then
    .ok (.charClass (CharClass.complement (.ofEnds [('\n', '\n'), ('\r', '\r')])))
  else .ok (.charClass (CharClass.complement (.single '\n')))

/-- The assertion that an anchor makes. -/
def assertion (flags : Flags) : Anchor → Assertion
  | .lineStart => if flags.multiLine then .lineStart flags.crlf else .textStart
  | .lineEnd => if flags.multiLine then .lineEnd flags.crlf else .textEnd
  | .textStart => .textStart
  | .textEnd => .textEnd
  | .wordBoundary => .wordBoundary flags.unicode
  | .notWordBoundary => .notWordBoundary flags.unicode
  | .wordStart => .wordStart flags.unicode
  | .wordEnd => .wordEnd flags.unicode
  | .wordStartHalf => .wordStartHalf flags.unicode
  | .wordEndHalf => .wordEndHalf flags.unicode

end Flags

mutual
/-- The expression that a written one means, and the flags that hold behind it. -/
def meaning : Ast → Flags → Except Fault (Expr × Flags)
  | .empty, mode => .ok (.empty, mode)
  | .flags changes, mode => .ok (.empty, mode.apply changes)
  | .literal literal, mode => do return (← mode.literal literal, mode)
  | .dot, mode => do return (← mode.dot, mode)
  | .anchor anchor, mode => .ok (.assertion (mode.assertion anchor), mode)
  | .charClass tree, mode => do return (.ofClass (← mode.members tree), mode)
  | .repetition min max body, mode => do
      let (body, mode) ← meaning body mode
      return (.ofRepetition min max body, mode)
  | .capture body, mode => do
      let (body, _) ← meaning body mode
      return (.capture body, mode)
  | .group changes body, mode => do
      let (body, _) ← meaning body (mode.apply changes)
      return (body, mode)
  | .concat parts, mode => do
      let (parts, mode) ← meanings parts mode
      return (.ofParts parts, mode)
  | .alternation branches, mode => do
      let (branches, mode) ← meanings branches mode
      return (.ofBranches branches, mode)

/-- The expressions that written ones mean, from left to right. -/
def meanings : List Ast → Flags → Except Fault (List Expr × Flags)
  | [], mode => .ok ([], mode)
  | part :: rest, mode => do
      let (part, mode) ← meaning part mode
      let (rest, mode) ← meanings rest mode
      return (part :: rest, mode)
end

end StrongLL.Regex
