import Mathlib.Logic.Equiv.Defs
import StrongLL.Rules.Table

/-!
# Other numbers for productions

Auxiliary productions are numbered as they are made. All that refers to a production can be
taken from one numbering to another one, and back.
-/

namespace StrongLL

namespace Symbol

/-- A symbol with another number. -/
def rename (numbering : RuleId → RuleId) : Symbol → Symbol
  | .token id => .token id
  | .rule id => .rule (numbering id)

@[simp] theorem rename_id (symbol : Symbol) : symbol.rename id = symbol := by
  cases symbol <;> rfl

@[simp] theorem rename_eq_rule {numbering : Equiv.Perm RuleId} {symbol : Symbol} {id : RuleId} :
    symbol.rename numbering = .rule (numbering id) ↔ symbol = .rule id := by
  cases symbol <;> simp [rename]

@[simp] theorem rename_symm (numbering : Equiv.Perm RuleId) (symbol : Symbol) :
    (symbol.rename numbering).rename numbering.symm = symbol := by
  cases symbol <;> simp [rename]

end Symbol

namespace Element

/-- An element with another number. -/
def rename (numbering : RuleId → RuleId) (element : Element) : Element :=
  { element with symbol := element.symbol.rename numbering }

@[simp] theorem occurs_rename (numbering : RuleId → RuleId) (element : Element) :
    (element.rename numbering).occurs = element.occurs := rfl

@[simp] theorem symbol_rename (numbering : RuleId → RuleId) (element : Element) :
    (element.rename numbering).symbol = element.symbol.rename numbering := rfl

@[simp] theorem rename_symm (numbering : Equiv.Perm RuleId) (element : Element) :
    (element.rename numbering).rename numbering.symm = element := by
  cases element
  simp [rename]

@[simp] theorem rename_comp_symm (numbering : Equiv.Perm RuleId) :
    rename numbering.symm ∘ rename numbering = id :=
  funext (rename_symm numbering)

end Element

end StrongLL
