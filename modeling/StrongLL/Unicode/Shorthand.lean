import StrongLL.Unicode.Category
import StrongLL.Unicode.BinaryProperty

/-!
# Word characters, digits and blanks

The classes that regular expressions name most often.
-/

namespace StrongLL.Unicode

/-- Decimal digits of all scripts. -/
def digit : CharClass := Category.unionOf ["nd"]

/-- Blanks and line ends. -/
def whiteSpace : CharClass := (BinaryProperty.find? "whitespace").getD .empty

/-- Letters and what acts like one. -/
def alphabetic : CharClass := (BinaryProperty.find? "alphabetic").getD .empty

/-- Letters and numbers. -/
def alphanumeric : CharClass := alphabetic.union (Category.unionOf ["nd", "nl", "no"])

/-- What words consist of: letters, marks, digits, joining punctuation and
joining controls. -/
def word : CharClass :=
  (alphabetic.union (Category.unionOf ["mn", "mc", "me", "nd", "pc"])).union
    ((BinaryProperty.find? "joincontrol").getD .empty)

end StrongLL.Unicode
