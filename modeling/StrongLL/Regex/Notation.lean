import StrongLL.Regex.Ast
import StrongLL.Regex.Fault
import StrongLL.Unicode.Shorthand

/-!
# Except Fault (regular × List Char) expressions

The reader goes through the text once, from left to right, and stops at the
first fault. In verbose mode blanks and comments between the pieces of an
expression are skipped. Every loop is bounded by the length of the text still
unread, since each turn takes at least one character.
-/

namespace StrongLL.Regex.Notation

/-- Whether a character is a blank. -/
def isBlank (char : Char) : Bool := Unicode.whiteSpace.contains char

/-- Skip blanks and comments. A comment runs from a number sign to the end of
the line. -/
def skipBlanks : (comment : Bool) → List Char → List Char
  | _, [] => []
  | true, char :: rest => skipBlanks (char ≠ '\n') rest
  | false, char :: rest =>
      if isBlank char then skipBlanks false rest
      else if char = '#' then skipBlanks true rest
      else char :: rest

/-- In verbose mode, skip blanks and comments. -/
def skip (verbose : Bool) (text : List Char) : List Char :=
  if verbose then skipBlanks false text else text

/-- Go behind the first character, and in verbose mode behind the blanks that
follow it. -/
def advance (verbose : Bool) (text : List Char) : List Char := skip verbose text.tail

/-- Collect characters as long as they are accepted. -/
def collect (verbose : Bool) (accept : Char → Bool) :
    (fuel : Nat) → List Char → List Char × List Char
  | 0, text => ([], text)
  | _ + 1, [] => ([], [])
  | fuel + 1, char :: rest =>
      if accept char then
        let (more, rest) := collect verbose accept fuel (skip verbose rest)
        (char :: more, rest)
      else ([], char :: rest)

/-- Collect characters as long as they are accepted. -/
def gather (verbose : Bool) (accept : Char → Bool) (text : List Char) :
    List Char × List Char :=
  collect verbose accept text.length text

/-! ## Numbers -/

/-- Greatest number that a count or a code point may be written as. -/
def wordLimit : Nat := 4294967295

/-- Read a decimal number with blanks around it. -/
def decimal (verbose : Bool) (text : List Char) : Except Fault Nat × List Char :=
  let (digits, rest) := gather verbose Char.isDigit (text.dropWhile isBlank)
  let (_, rest) := gather verbose isBlank rest
  let value := digits.foldl (fun value digit => value * 10 + (digit.toNat - '0'.toNat)) 0
  if digits.isEmpty then (.error .repetitionCountEmpty, rest)
  else if wordLimit < value then (.error .decimalInvalid, rest)
  else (.ok value, rest)

/-- The value of a hexadecimal digit. -/
def hexDigit? (char : Char) : Option Nat :=
  if '0' ≤ char ∧ char ≤ '9' then some (char.toNat - '0'.toNat)
  else if 'a' ≤ char ∧ char ≤ 'f' then some (char.toNat - 'a'.toNat + 10)
  else if 'A' ≤ char ∧ char ≤ 'F' then some (char.toNat - 'A'.toNat + 10)
  else none

/-- The character with a code point, if it is a scalar value. -/
def scalar (code : Nat) : Except Fault Char :=
  if code < 0xD800 ∨ (0xE000 ≤ code ∧ code ≤ 0x10FFFF) then .ok (Char.ofNat code)
  else .error .hexInvalid

/-- Read a fixed number of hexadecimal digits. -/
def hexFixed (verbose : Bool) : (count : Nat) → (value : Nat) → List Char → Except Fault (Nat × List Char)
  | 0, value, text => .ok (value, text)
  | _ + 1, _, [] => .error .escapeUnexpectedEnd
  | count + 1, value, char :: rest =>
      match hexDigit? char with
      | none => .error .hexInvalidDigit
      | some digit => hexFixed verbose count (value * 16 + digit) (skip verbose rest)

/-- Read hexadecimal digits up to a closing brace. -/
def hexBraced (verbose : Bool) (text : List Char) : Except Fault (Char × List Char) := do
  let (digits, rest) := gather verbose (fun char => (hexDigit? char).isSome) text
  match rest with
  | [] => throw .escapeUnexpectedEnd
  | char :: _ =>
      if char ≠ '}' then throw .hexInvalidDigit
      if digits.isEmpty then throw .hexEmpty
      let value := digits.foldl (fun value digit => value * 16 + (hexDigit? digit).getD 0) 0
      return (← scalar value, advance verbose rest)

/-- Read the part of a hexadecimal escape behind its letter. -/
def hexEscape (verbose : Bool) (digits : Nat) (text : List Char) : Except Fault (Ast × List Char) := do
  match text with
  | [] => throw .escapeUnexpectedEnd
  | '{' :: rest =>
      let (char, rest) ← hexBraced verbose (skip verbose rest)
      return (.literal { char }, rest)
  | _ =>
      let (value, rest) ← hexFixed verbose digits 0 text
      return (.literal { char := ← scalar value, isByte := digits == 2 }, rest)

/-! ## Escapes -/

/-- Cut a text at the first occurrence of `mark`. -/
def cutAt? (mark : List Char) : List Char → Option (List Char × List Char)
  | [] => none
  | char :: rest =>
      if mark.isPrefixOf (char :: rest) then some ([], (char :: rest).drop mark.length)
      else (cutAt? mark rest).map fun (before, behind) => (char :: before, behind)

/-- What the text between the braces of a property class asks for, and whether
it is negated by its operator. -/
def propertyQuery (text : List Char) : PropertyQuery × Bool :=
  match cutAt? ['!', '='] text with
  | some (name, value) => (.value (String.ofList name) (String.ofList value), true)
  | none =>
      match (cutAt? [':'] text).orElse fun _ => cutAt? ['='] text with
      | some (name, value) => (.value (String.ofList name) (String.ofList value), false)
      | none => (.name (String.ofList text), false)

/-- Read the part of a property class behind its letter. -/
def propertyEscape (verbose negated : Bool) (text : List Char) : Except Fault (Ast × List Char) := do
  match text with
  | [] => throw .escapeUnexpectedEnd
  | '{' :: rest =>
      let (name, rest) := gather verbose (· ≠ '}') (skip verbose rest)
      if rest.isEmpty then throw .escapeUnexpectedEnd
      let (query, inverted) := propertyQuery name
      return (.charClass (.property query (negated != inverted)), rest.tail)
  | '\\' :: _ => throw .propertyNameInvalid
  | char :: rest => return (.charClass (.property (.letter char) negated), skip verbose rest)

/-- Characters that are special somewhere in a regular expression. -/
def isMeta (char : Char) : Bool := "\\.+*?()|[]\x7b\x7d^$#&-~".toList.contains char

/-- Characters that may be escaped without need: all of ASCII but letters,
digits and angle brackets. -/
def isEscapable (char : Char) : Bool :=
  isMeta char || (char.toNat < 0x80 && !char.isAlphanum && char ≠ '<' && char ≠ '>')

/-- Characters in the name of a word boundary. -/
def isBoundaryChar (char : Char) : Bool := char.isAlpha || char = '-'

/-- Read what may follow the escape of a word boundary: the name of a special
boundary between braces, or else nothing that belongs to it. -/
def boundaryEscape (verbose : Bool) (text : List Char) : Except Fault (Ast × List Char) := do
  match text with
  | '{' :: rest =>
      match skip verbose rest with
      | [] => throw .wordBoundaryUnexpectedEnd
      | char :: more =>
          if !isBoundaryChar char then return (.anchor .wordBoundary, text)
          let (name, rest) := gather verbose isBoundaryChar (char :: more)
          if rest.head? ≠ some '}' then throw .wordBoundaryUnclosed
          match String.ofList name with
          | "start" => return (.anchor .wordStart, rest.tail)
          | "end" => return (.anchor .wordEnd, rest.tail)
          | "start-half" => return (.anchor .wordStartHalf, rest.tail)
          | "end-half" => return (.anchor .wordEndHalf, rest.tail)
          | _ => throw .wordBoundaryUnrecognized
  | _ => return (.anchor .wordBoundary, text)

/-- Read an escape, of which the backslash is gone. -/
def escape (verbose : Bool) (text : List Char) : Except Fault (Ast × List Char) := do
  match text with
  | [] => throw .escapeUnexpectedEnd
  | char :: rest =>
      if char.isDigit then throw .backreference
      let literal (code : Nat) : Except Fault (Ast × List Char) :=
        return (.literal { char := Char.ofNat code }, rest)
      let shorthand (name : Shorthand) (negated : Bool) : Except Fault (Ast × List Char) :=
        return (.charClass (.shorthand name negated), rest)
      let anchor (anchor : Anchor) : Except Fault (Ast × List Char) := return (.anchor anchor, rest)
      match char with
      | 'x' => hexEscape verbose 2 (skip verbose rest)
      | 'u' => hexEscape verbose 4 (skip verbose rest)
      | 'U' => hexEscape verbose 8 (skip verbose rest)
      | 'p' => propertyEscape verbose false (skip verbose rest)
      | 'P' => propertyEscape verbose true (skip verbose rest)
      | 'd' => shorthand .digit false
      | 'D' => shorthand .digit true
      | 's' => shorthand .space false
      | 'S' => shorthand .space true
      | 'w' => shorthand .word false
      | 'W' => shorthand .word true
      | 'a' => literal 0x07
      | 'f' => literal 0x0C
      | 't' => literal 0x09
      | 'n' => literal 0x0A
      | 'r' => literal 0x0D
      | 'v' => literal 0x0B
      | 'A' => anchor .textStart
      | 'z' => anchor .textEnd
      | 'b' => boundaryEscape verbose rest
      | 'B' => anchor .notWordBoundary
      | '<' => anchor .wordStart
      | '>' => anchor .wordEnd
      | _ => if isEscapable char then literal char.toNat else throw .escapeUnrecognized

/-! ## Bracketed classes -/

/-- The named class with this name. -/
def posixClass? : String → Option PosixClass
  | "alnum" => some .alnum
  | "alpha" => some .alpha
  | "ascii" => some .ascii
  | "blank" => some .blank
  | "cntrl" => some .cntrl
  | "digit" => some .digit
  | "graph" => some .graph
  | "lower" => some .lower
  | "print" => some .print
  | "punct" => some .punct
  | "space" => some .space
  | "upper" => some .upper
  | "word" => some .word
  | "xdigit" => some .xdigit
  | _ => none

/-- Read a named class whose opening bracket is gone. Anything else is not a
fault but no named class. -/
def posix? (text : List Char) : Option (ClassTree × List Char) :=
  match text with
  | ':' :: rest =>
      let (negated, rest) := match rest with
        | '^' :: rest => (true, rest)
        | _ => (false, rest)
      match rest.dropWhile (· ≠ ':') with
      | ':' :: ']' :: behind =>
          (posixClass? (String.ofList (rest.takeWhile (· ≠ ':')))).map fun name =>
            (.posix name negated, behind)
      | _ => none
  | _ => none

/-- Take literal dashes off the beginning of a class. -/
def leadingDashes (verbose : Bool) : (fuel : Nat) → (parts : List ClassTree) →
    List Char → Except Fault (List ClassTree × List Char)
  | fuel + 1, parts, '-' :: rest =>
      match skip verbose rest with
      | [] => .error .classUnclosed
      | text => leadingDashes verbose fuel (.literal { char := '-' } :: parts) text
  | _, parts, text => .ok (parts, text)

/-- Read the beginning of a class behind its opening bracket: the negation, and
the characters that are literal only there. -/
def openClass (verbose : Bool) (text : List Char) : Except Fault ((Bool × List ClassTree) × List Char) := do
  let text := skip verbose text
  if text.isEmpty then throw .classUnclosed
  let negated := text.head? == some '^'
  let text := if negated then advance verbose text else text
  if text.isEmpty then throw .classUnclosed
  let (parts, text) ← leadingDashes verbose text.length [] text
  match parts, text with
  | [], ']' :: rest =>
      let text := skip verbose rest
      if text.isEmpty then throw .classUnclosed
      return ((negated, [.literal { char := ']' }]), text)
  | _, _ => return ((negated, parts), text)

/-- Read one item of a class. -/
def classItem (verbose : Bool) : List Char → Except Fault (Ast × List Char)
  | '\\' :: rest => escape verbose rest
  | char :: rest => .ok (.literal { char }, rest)
  | [] => .error .classUnclosed

/-- The part of a class that an item is. -/
def asPart : Ast → Except Fault ClassTree
  | .literal literal => .ok (.literal literal)
  | .charClass tree => .ok tree
  | _ => .error .classEscapeInvalid

/-- The end of a range that an item is. -/
def asEnd : Ast → Except Fault Literal
  | .literal literal => .ok literal
  | _ => .error .classRangeLiteral

/-- The first character that is no blank, where a number sign is passed over
once. -/
def visible? : (passed : Bool) → List Char → Option Char
  | _, [] => none
  | passed, char :: rest =>
      if isBlank char then visible? passed rest
      else if char = '#' ∧ !passed then visible? true rest
      else some char

/-- The character that decides whether a dash before `text` stands between the
ends of a range. -/
def behindDash? (verbose : Bool) (text : List Char) : Option Char :=
  if verbose then (visible? false text).orElse fun _ => text.head? else text.head?

/-- Read an item of a class, or a range between two items. -/
def classRange (verbose : Bool) (text : List Char) : Except Fault (ClassTree × List Char) := do
  let (first, text) ← classItem verbose text
  match skip verbose text with
  | [] => throw .classUnclosed
  | '-' :: rest =>
      let next := behindDash? verbose rest
      if next = some ']' ∨ next = some '-' then
        return (← asPart first, '-' :: rest)
      let text := skip verbose rest
      if text.isEmpty then throw .classUnclosed
      let (last, text) ← classItem verbose text
      let first ← asEnd first
      let last ← asEnd last
      if first.char.toNat ≤ last.char.toNat then return (.range first last, text)
      throw .classRangeInvalid
  | text => return (← asPart first, text)

/-- Combine what stands before an operator with what stands behind it. -/
def closeOperator (pending : Option (ClassOperator × ClassTree)) (parts : List ClassTree) :
    ClassTree :=
  let right := ClassTree.ofParts parts.reverse
  match pending with
  | none => right
  | some (operator, left) => .combine operator left right

/-- Read the rest of a class up to its closing bracket. `parts` holds in reverse
what was read since the last operator. -/
def classBody (verbose : Bool) : (fuel : Nat) → (parts : List ClassTree) →
    (pending : Option (ClassOperator × ClassTree)) → List Char → Except Fault (ClassTree × List Char)
  | 0, _, _, _ => .error .classUnclosed
  | fuel + 1, parts, pending, text => do
      let operator (operator : ClassOperator) (rest : List Char) :=
        classBody verbose fuel [] (some (operator, closeOperator pending parts)) rest
      match skip verbose text with
      | [] => throw .classUnclosed
      | '[' :: rest =>
          match posix? rest with
          | some (part, rest) => classBody verbose fuel (part :: parts) pending rest
          | none =>
              let ((negated, inner), rest) ← openClass verbose rest
              let (tree, rest) ← classBody verbose fuel inner none rest
              classBody verbose fuel (.bracket negated tree :: parts) pending rest
      | ']' :: rest => return (closeOperator pending parts, rest)
      | '&' :: '&' :: rest => operator .intersection rest
      | '-' :: '-' :: rest => operator .difference rest
      | '~' :: '~' :: rest => operator .symmetricDifference rest
      | text =>
          let (part, rest) ← classRange verbose text
          classBody verbose fuel (part :: parts) pending rest

/-- Read a class whose opening bracket is gone. -/
def bracketed (verbose : Bool) (text : List Char) : Except Fault (Ast × List Char) := do
  let ((negated, parts), rest) ← openClass verbose text
  let (tree, rest) ← classBody verbose text.length parts none rest
  return (.charClass (.bracket negated tree), rest)

/-! ## Groups -/

/-- What an opening parenthesis begins. -/
inductive Opening where
  | capture (name : Option (List Char))
  | group (changes : FlagChanges)
  | flags (changes : FlagChanges)

/-- The flag with this letter. -/
def flag? : Char → Option Flag
  | 'i' => some .caseInsensitive
  | 'm' => some .multiLine
  | 's' => some .dotMatchesNewLine
  | 'U' => some .swapGreed
  | 'u' => some .unicode
  | 'R' => some .crlf
  | 'x' => some .verbose
  | _ => none

/-- Read flags up to a colon or a closing parenthesis, which is left in place.
`negation` tells whether a dash was read, and whether just now. -/
def flagChanges : (changes : FlagChanges) → (negation dangling : Bool) →
    List Char → Except Fault (FlagChanges × List Char)
  | _, _, _, [] => .error .flagUnexpectedEnd
  | changes, negation, dangling, char :: rest =>
      if char = ':' ∨ char = ')' then
        if dangling then .error .flagDanglingNegation
        else .ok (changes.reverse, char :: rest)
      else if char = '-' then
        if negation then .error .flagRepeatedNegation
        else flagChanges changes true true rest
      else
        match flag? char with
        | none => .error .flagUnrecognized
        | some flag =>
            if changes.any (·.1 == flag) then .error .flagDuplicate
            else flagChanges ((flag, !negation) :: changes) negation false rest

/-- Whether a character may stand in the name of a group. -/
def isNameChar (first : Bool) (char : Char) : Bool :=
  if first then char = '_' || Unicode.alphabetic.contains char
  else ['_', '.', '[', ']'].contains char || Unicode.alphanumeric.contains char

/-- Read the name of a group up to the closing angle bracket. -/
def groupName : (first : Bool) → List Char → Except Fault (List Char × List Char)
  | _, [] => .error .groupNameUnclosed
  | first, char :: rest =>
      if char = '>' then .ok ([], rest)
      else if isNameChar first char then do
        let (name, rest) ← groupName false rest
        return (char :: name, rest)
      else .error .groupNameInvalid

/-- Read the name of a group that differs from those in `names`. -/
def freshName (names : List (List Char)) (text : List Char) : Except Fault (Opening × List Char) := do
  let (name, rest) ← groupName true text
  if name.isEmpty then throw .groupNameEmpty
  if names.contains name then throw .groupNameDuplicate
  return (.capture (some name), rest)

/-- Read what follows an opening parenthesis. -/
def opening (verbose : Bool) (names : List (List Char)) (text : List Char) :
    Except Fault (Opening × List Char) := do
  match skip verbose text with
  | '?' :: '=' :: _ | '?' :: '!' :: _ => throw .lookAround
  | '?' :: '<' :: '=' :: _ | '?' :: '<' :: '!' :: _ => throw .lookAround
  | '?' :: 'P' :: '<' :: rest => freshName names rest
  | '?' :: '<' :: rest => freshName names rest
  | '?' :: rest =>
      if rest.isEmpty then throw .groupUnclosed
      let (changes, rest) ← flagChanges [] false false rest
      if rest.head? = some ')' then
        if changes.isEmpty then throw .repetitionMissing
        return (.flags changes, rest.tail)
      return (.group changes, rest.tail)
  | text => return (.capture none, text)

/-! ## Repetitions -/

/-- The expression that a repetition operator applies to, and what stands before
it in reverse. -/
def repeated : List Ast → Except Fault (Ast × List Ast)
  | [] | .empty :: _ | .flags _ :: _ => .error .repetitionMissing
  | body :: before => .ok (body, before)

/-- Read the bounds of a counted repetition behind the opening brace, up to the
closing one, which is left in place. -/
def bounds (verbose : Bool) (text : List Char) : Except Fault ((Nat × Option Nat) × List Char) := do
  if text.isEmpty then throw .repetitionUnclosed
  let (min, rest) := decimal verbose text
  match rest with
  | [] => throw .repetitionUnclosed
  | ',' :: rest =>
      match skip verbose rest with
      | [] => throw .repetitionUnclosed
      | '}' :: rest => return ((← min, none), '}' :: rest)
      | text =>
          let min ← min
          let (max, rest) := decimal verbose text
          return ((min, some (← max)), rest)
  | _ =>
      let count ← min
      return ((count, some count), rest)

/-- Read a counted repetition behind the opening brace. -/
def counted (verbose : Bool) (text : List Char) : Except Fault ((Nat × Option Nat) × List Char) := do
  let ((min, max), rest) ← bounds verbose (skip verbose text)
  if rest.head? ≠ some '}' then throw .repetitionUnclosed
  let rest := advance verbose rest
  let rest := if rest.head? = some '?' then rest.tail else rest
  if max.any (· < min) then throw .repetitionCountInvalid
  return ((min, max), rest)

/-! ## Whole expressions -/

/-- What surrounds a group that is being read: the branches and parts before it,
in reverse, and the mode that returns when it ends. -/
structure Level where
  group : Ast → Ast
  branches : List Ast
  parts : List Ast
  verbose : Bool

/-- The expression that branches and the parts of the last one make up. -/
def assemble (branches parts : List Ast) : Ast :=
  Ast.ofBranches ((Ast.ofParts parts.reverse :: branches).reverse)

/-- Whether verbose mode is on behind flags. -/
def verboseAfter (verbose : Bool) (changes : FlagChanges) : Bool :=
  match changes.find? (·.1 == .verbose) with
  | some (_, enabled) => enabled
  | none => verbose

/-- Read an expression to the end of the text. `levels` are the open groups. -/
def expression : (fuel : Nat) → (levels : List Level) → (names : List (List Char)) →
    (verbose : Bool) → (branches parts : List Ast) → List Char → Except Fault Ast
  | 0, _, _, _, branches, parts, _ => .ok (assemble branches parts)
  | fuel + 1, levels, names, verbose, branches, parts, text => do
      let proceed (parts : List Ast) (rest : List Char) :=
        expression fuel levels names verbose branches parts rest
      let repetition (min : Nat) (max : Option Nat) (rest : List Char) := do
        let (body, before) ← repeated parts
        let rest := if rest.head? = some '?' then rest.tail else rest
        proceed (.repetition min max body :: before) rest
      match skip verbose text with
      | [] =>
          if levels.isEmpty then return assemble branches parts
          throw .groupUnclosed
      | '(' :: rest =>
          let (begun, rest) ← opening verbose names rest
          match begun with
          | .flags changes =>
              expression fuel levels names (verboseAfter verbose changes) branches
                (.flags changes :: parts) rest
          | .capture name =>
              expression fuel (⟨.capture, branches, parts, verbose⟩ :: levels)
                (name.toList ++ names) verbose [] [] rest
          | .group changes =>
              expression fuel (⟨.group changes, branches, parts, verbose⟩ :: levels)
                names (verboseAfter verbose changes) [] [] rest
      | ')' :: rest =>
          match levels with
          | [] => throw .groupUnopened
          | level :: levels =>
              expression fuel levels names level.verbose level.branches
                (level.group (assemble branches parts) :: level.parts) rest
      | '|' :: rest =>
          expression fuel levels names verbose (Ast.ofParts parts.reverse :: branches) [] rest
      | '[' :: rest =>
          let (ast, rest) ← bracketed verbose rest
          proceed (ast :: parts) rest
      | '?' :: rest => repetition 0 (some 1) rest
      | '*' :: rest => repetition 0 none rest
      | '+' :: rest => repetition 1 none rest
      | '{' :: rest =>
          let (body, before) ← repeated parts
          let ((min, max), rest) ← counted verbose rest
          proceed (.repetition min max body :: before) rest
      | '\\' :: rest =>
          let (ast, rest) ← escape verbose rest
          proceed (ast :: parts) rest
      | '.' :: rest => proceed (.dot :: parts) rest
      | '^' :: rest => proceed (.anchor .lineStart :: parts) rest
      | '$' :: rest => proceed (.anchor .lineEnd :: parts) rest
      | char :: rest => proceed (.literal { char } :: parts) rest

/-- Read a regular expression. -/
def read (text : List Char) : Except Fault Ast := do
  let ast ← expression (text.length + 1) [] [] false [] [] text
  if nestingLimit < ast.depth then throw .nestingTooDeep
  return ast

end StrongLL.Regex.Notation
