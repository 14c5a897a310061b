import StrongLL.Unicode.Category
import StrongLL.Unicode.BinaryProperty
import StrongLL.Unicode.Script

/-!
# Properties by name

Names are compared without regard to case, spaces, underscores and hyphens, and
a leading "is" is dropped. A name alone stands for a binary property, a general
category or a script, in this order; a name with a value says which kind it is.
-/

namespace StrongLL.Unicode.Property

/-- What a query did not find. -/
inductive Missing where
  | property
  | value
  deriving DecidableEq, Repr

/-- A name as it is compared. The short name of the comment property is the only
one that begins with "is" itself. -/
def normalize (name : String) : String :=
  let simple (chars : List Char) : List Char :=
    (chars.filter fun char =>
      char.toNat < 0x80 && char ≠ ' ' && char ≠ '_' && char ≠ '-').map Char.toLower
  match name.toList with
  | i :: s :: rest =>
      if i.toLower = 'i' ∧ s.toLower = 's' then
        let rest := simple rest
        String.ofList (if rest = ['c'] then ['i', 's', 'c'] else rest)
      else String.ofList (simple (i :: s :: rest))
  | chars => String.ofList (simple chars)

/-- Properties that are known but have no classes here. -/
def others : List String :=
  ["age", "bc", "bidiclass", "blk", "block", "bmg", "bidimirroringglyph", "bpb",
   "bidipairedbracket", "bpt", "bidipairedbrackettype", "ccc", "canonicalcombiningclass",
   "casefolding", "ce", "compositionexclusion", "compex", "fullcompositionexclusion",
   "dm", "decompositionmapping", "dt", "decompositiontype", "ea", "eastasianwidth",
   "expandsonnfc", "expandsonnfd", "expandsonnfkc", "expandsonnfkd", "fcnfkc",
   "fcnfkcclosure", "gcb", "graphemeclusterbreak", "grlink", "graphemelink", "hst",
   "hangulsyllabletype", "hyphen", "incb", "indicconjunctbreak", "inpc",
   "indicpositionalcategory", "insc", "indicsyllabiccategory", "isc", "isocomment", "jg",
   "joininggroup", "jsn", "jamoshortname", "jt", "joiningtype", "lb", "linebreak",
   "lowercasemapping", "na", "name", "na1", "unicode1name", "namealias", "nfcqc",
   "nfcquickcheck", "nfdqc", "nfdquickcheck", "nfkcqc", "nfkcquickcheck", "nfkdqc",
   "nfkdquickcheck", "nfkccf", "nfkccasefold", "nfkcscf", "nfkcsimplecasefold", "nt",
   "numerictype", "nv", "numericvalue", "oalpha", "otheralphabetic", "odi",
   "otherdefaultignorablecodepoint", "ogrext", "othergraphemeextend", "oidc",
   "otheridcontinue", "oids", "otheridstart", "olower", "otherlowercase", "omath",
   "othermath", "oupper", "otheruppercase", "sb", "sentencebreak", "scf",
   "simplecasefolding", "sfc", "slc", "simplelowercasemapping", "stc",
   "simpletitlecasemapping", "suc", "simpleuppercasemapping", "tc", "titlecasemapping",
   "uc", "uppercasemapping", "vo", "verticalorientation", "wb", "wordbreak", "bidim",
   "bidimirrored", "cwkcf", "changeswhennfkccasefolded", "pcm",
   "prependedconcatenationmark"]

/-- Names that stand for a category or script although a property has them too. -/
def shadowed : List String := ["cf", "sc", "lc"]

/-- The characters that a name alone stands for. -/
def byName? (name : String) : Option CharClass :=
  let name := normalize name
  match if shadowed.contains name then none else BinaryProperty.find? name with
  | some charClass => some charClass
  | none =>
      if others.contains name then none
      else (Category.find? name).orElse fun _ => Script.find? name

/-- The characters for which the property `name` has the value `value`. -/
def byValue (name value : String) : Except Missing CharClass :=
  let value := normalize value
  let found : Option CharClass → Except Missing CharClass
    | some charClass => .ok charClass
    | none => .error .value
  match normalize name with
  | "gc" | "generalcategory" | "category" => found (Category.find? value)
  | "sc" | "script" => found (Script.find? value)
  | "scx" | "scriptextensions" => found (Script.findExtended? value)
  | name =>
      if others.contains name || shadowed.contains name ||
          (BinaryProperty.find? name).isSome then .error .value
      else .error .property

end StrongLL.Unicode.Property
