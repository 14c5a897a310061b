import StrongLL.Token.Basic

/-!
# Terminals

What a parser sees when it looks ahead: a token, or the end of input. Terminals
are ordered by token number, the end of input last, and sequences of them
lexicographically.
-/

namespace StrongLL

/-- A token, or the end of input. -/
inductive Terminal where
  | token (id : TokenId)
  | eof
  deriving DecidableEq, Repr

namespace Terminal

/-- Whether `left` comes before `right`. -/
def precedes : (left right : Terminal) → Bool
  | .token left, .token right => left < right
  | .token _, .eof => true
  | .eof, _ => false

/-- The number of a token. -/
def tokenId? : Terminal → Option TokenId
  | .token id => some id
  | .eof => none

theorem precedes_irrefl (terminal : Terminal) : terminal.precedes terminal = false := by
  cases terminal with
  | token id => exact decide_eq_false (Nat.lt_irrefl id)
  | eof => rfl

theorem precedes_trans {a b c : Terminal} (ab : a.precedes b) (bc : b.precedes c) :
    a.precedes c := by
  match a, b, c with
  | .token _, .token _, .token _ =>
      exact decide_eq_true (Nat.lt_trans (of_decide_eq_true ab) (of_decide_eq_true bc))
  | .token _, .token _, .eof => rfl
  | .token _, .eof, _ => simp [precedes] at bc
  | .eof, _, _ => simp [precedes] at ab

theorem precedes_total {a b : Terminal} (distinct : a ≠ b) (later : a.precedes b = false) :
    b.precedes a := by
  match a, b with
  | .token a, .token b =>
      have notBelow : ¬ a < b := of_decide_eq_false later
      have notEqual : a ≠ b := fun equal => distinct (by rw [equal])
      exact decide_eq_true (Nat.lt_of_le_of_ne (Nat.le_of_not_lt notBelow) notEqual.symm)
  | .token _, .eof => simp [precedes] at later
  | .eof, .token _ => rfl
  | .eof, .eof => exact absurd rfl distinct

end Terminal

/-- A look-ahead sequence. -/
abbrev Terminals := List Terminal

namespace Terminals

/-- Whether `left` comes before `right` lexicographically; a sequence comes
before its extensions. -/
def precedes : (left right : Terminals) → Bool
  | _, [] => false
  | [], _ :: _ => true
  | a :: left, b :: right => if a = b then precedes left right else a.precedes b

theorem precedes_irrefl (sequence : Terminals) : precedes sequence sequence = false := by
  induction sequence with
  | nil => rfl
  | cons a rest ih => simp [precedes, ih]

theorem precedes_total {left right : Terminals} (distinct : left ≠ right)
    (later : precedes left right = false) : precedes right left := by
  induction left generalizing right with
  | nil => cases right <;> simp_all [precedes]
  | cons a left ih =>
      cases right with
      | nil => rfl
      | cons b right =>
          by_cases same : a = b
          · subst same
            simp only [precedes, if_true] at later ⊢
            exact ih (fun equal => distinct (by rw [equal])) later
          · simp only [precedes, if_neg same, if_neg (Ne.symm same)] at later ⊢
            exact Terminal.precedes_total same later

theorem precedes_trans {a b c : Terminals} (ab : precedes a b) (bc : precedes b c) :
    precedes a c := by
  induction a generalizing b c with
  | nil => cases b <;> cases c <;> simp_all [precedes]
  | cons x a ih =>
      cases b with
      | nil => simp [precedes] at ab
      | cons y b =>
          cases c with
          | nil => simp [precedes] at bc
          | cons z c =>
              simp only [precedes] at ab bc ⊢
              by_cases xy : x = y
              · subst xy
                by_cases xz : x = z
                · subst xz
                  simp only [if_true] at ab bc ⊢
                  exact ih ab bc
                · simpa only [if_neg xz] using bc
              · by_cases yz : y = z
                · subst yz
                  simpa only [if_neg xy] using ab
                · simp only [if_neg xy] at ab
                  simp only [if_neg yz] at bc
                  have xz := Terminal.precedes_trans ab bc
                  by_cases equal : x = z
                  · subst equal
                    simp [Terminal.precedes_irrefl] at xz
                  · simpa only [if_neg equal] using xz

/-- Whether a sequence cannot grow any further under depth `depth`: it is long
enough, or the input ends with it. -/
def isComplete (sequence : Terminals) (depth : Nat) : Bool :=
  depth ≤ sequence.length || sequence.getLast? == some .eof

/-- Length of the longest common beginning. -/
def commonLength : (left right : Terminals) → Nat
  | a :: left, b :: right => if a = b then commonLength left right + 1 else 0
  | _, _ => 0

end Terminals

end StrongLL
