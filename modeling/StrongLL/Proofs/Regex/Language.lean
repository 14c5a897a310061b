import Mathlib.Computability.Language
import Mathlib.Order.CompletePartialOrder
import StrongLL.Automaton.Compile

/-!
# The texts that patterns stand for

A regular expression stands for a language. A literal stands for its own text, or for all
texts that differ from it by case only.
-/

namespace StrongLL

namespace Regex.Expr

/-- The texts of as many members of a language as a repetition asks for, in a row. A maximum
below the minimum does not count. -/
def repeated (min : Nat) (max : Option Nat) (language : Language Char) : Language Char :=
  ⨆ count, ⨆ (_ : min ≤ count ∧ ∀ limit ∈ max, count ≤ Nat.max min limit), language ^ count

/-- The texts of one character of a class. -/
def oneOf (charClass : CharClass) : Language Char :=
  ⨆ char, ⨆ (_ : charClass.contains char = true), {[char]}

variable {text : List Char}

theorem mem_singleton {word : List Char} : text ∈ ({word} : Language Char) ↔ text = word :=
  Set.mem_singleton_iff

theorem mem_repeated {min : Nat} {max : Option Nat} {language : Language Char} :
    text ∈ repeated min max language ↔
      ∃ count, (min ≤ count ∧ ∀ limit ∈ max, count ≤ Nat.max min limit) ∧
        text ∈ language ^ count := by
  simp only [repeated, Language.mem_iSup, exists_prop]

theorem mem_oneOf {charClass : CharClass} :
    text ∈ oneOf charClass ↔ ∃ char, charClass.contains char = true ∧ text = [char] := by
  simp only [oneOf, Language.mem_iSup, exists_prop, mem_singleton]

theorem contains_single {char other : Char} :
    (CharClass.single char).contains other = true ↔ other = char := by
  rw [← Char.toNat_inj]
  simp only [CharClass.contains, CharClass.single, CharClass.covers, CharRange.single]
  grind

theorem oneOf_single (char : Char) : oneOf (.single char) = {[char]} := by
  ext text
  simp only [mem_oneOf, contains_single, exists_eq_left, mem_singleton]

theorem prod_singletons (chars : List Char) :
    (chars.map fun char => oneOf (.single char)).prod = {chars} := by
  induction chars with
  | nil => rfl
  | cons char rest ih =>
      rw [List.map_cons, List.prod_cons, ih, oneOf_single]
      ext text
      simp [Language.mem_mul, mem_singleton, eq_comm]

mutual
/-- The texts that a regular expression matches. An assertion is never matched, for no
automaton is made of it. -/
def language : Expr → Language Char
  | .empty => 1
  | .literal text => {text}
  | .charClass members => oneOf members
  | .assertion _ => 0
  | .repetition min max body => repeated min max body.language
  | .capture body => body.language
  | .concat parts => (languages parts).prod
  | .alternation branches => (languages branches).sum

/-- The texts that regular expressions match, each for itself. -/
def languages : List Expr → List (Language Char)
  | [] => []
  | expr :: rest => expr.language :: languages rest
end

end Regex.Expr

/-- The texts that a pattern matches: those of its regular expression, or its own text, in
which each character also stands for its other case if case does not matter. -/
def Pattern.language (caseInsensitive : Bool) (pattern : Pattern) : Language Char :=
  match pattern.kind with
  | .literal =>
      if caseInsensitive then
        (pattern.text.toList.map fun char => Regex.Expr.oneOf (.caseless char)).prod
      else {pattern.text.toList}
  | .regex => ⨆ expr, ⨆ flags, ⨆ (_ : (do
      let ast ← Regex.Notation.read pattern.text.toList
      Regex.meaning ast { caseInsensitive }) = .ok (expr, flags)), expr.language

/-- A pattern that is read as a regular expression matches what that matches. -/
theorem Pattern.language_eq {caseInsensitive : Bool} {pattern : Pattern}
    (kind : pattern.kind = .regex) {expr : Regex.Expr} {flags : Regex.Flags}
    (read : (do
      let ast ← Regex.Notation.read pattern.text.toList
      Regex.meaning ast { caseInsensitive }) = .ok (expr, flags)) :
    pattern.language caseInsensitive = expr.language := by
  ext text
  simp only [Pattern.language, kind, Language.mem_iSup, read, Except.ok.injEq, Prod.mk.injEq,
    exists_prop]
  simp

end StrongLL
