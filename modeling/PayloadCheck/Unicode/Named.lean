import PayloadCheck.Unicode.Age
import PayloadCheck.Unicode.Casing
import PayloadCheck.Unicode.Segmentation

/-!
# Sets of code points by name

Names are compared in loose form (`looseName`). A bare name is looked for among the binary
properties, the general categories and the scripts, in this order; a name with a value asks for
one general category, script, age or break class.
-/

namespace PayloadCheck

/-- ASCII only and in lower case, without blanks, hyphens, underscores and a leading `is`; the
name `isc` keeps its `is`. -/
def looseName (name : String) : String :=
  let kept (cs : List Char) : String :=
    String.ofList ((cs.filter fun c => c.toNat < 128 && c ≠ ' ' && c ≠ '_' && c ≠ '-').map
      Char.toLower)
  match name.toList with
  | i :: s :: rest =>
    if i.toLower = 'i' && s.toLower = 's' then
      if kept rest = "c" then "isc" else kept rest
    else kept name.toList
  | cs => kept cs

namespace CodeSet

def ofProperty? (loose : String) : Option CodeSet :=
  (Property.table.find? fun p => p.names.contains loose).map Property.codes

def ofCategory? (loose : String) : Option CodeSet :=
  if loose = "any" then some all
  else if loose = "ascii" then some (range 0 127)
  else if loose = "assigned" then some (Category.unassigned.codes.complement)
  else (Category.named.find? fun entry => entry.1.contains loose).map fun entry =>
    ofCategories entry.2

def ofScript? (loose : String) : Option CodeSet :=
  (Script.table.find? fun s => s.names.contains loose).map Script.codes

def ofExtendedScript? (loose : String) : Option CodeSet :=
  (Script.table.find? fun s => s.names.contains loose).map Script.extendedCodes

/-- The names `cf`, `sc` and `lc` always stand for general categories. -/
def named? (name : String) : Option CodeSet :=
  let loose := looseName name
  let property :=
    if ["cf", "sc", "lc"].contains loose then none else ofProperty? loose
  property <|> ofCategory? loose <|> ofScript? loose

/-- The code points of an age and of all before it. -/
def ofAge? (loose : String) : Option CodeSet :=
  (Age.table.findIdx? fun a => a.names.contains loose).map fun i => Age.through (i + 1)

def ofBreak? (classes : List BreakClass) (loose : String) : Option CodeSet :=
  (classes.find? fun b => b.names.contains loose).map fun b => b.rule.codes

def valued? (name value : String) : Option CodeSet :=
  let loose := looseName name
  if ["gc", "generalcategory", "category"].contains loose then ofCategory? (looseName value)
  else if ["sc", "script"].contains loose then ofScript? (looseName value)
  else if ["scx", "scriptextensions"].contains loose then ofExtendedScript? (looseName value)
  else if loose = "age" then ofAge? (looseName value)
  else if ["gcb", "graphemeclusterbreak"].contains loose then
    ofBreak? BreakClass.grapheme (looseName value)
  else if ["wb", "wordbreak"].contains loose then ofBreak? BreakClass.word (looseName value)
  else if ["sb", "sentencebreak"].contains loose then ofBreak? BreakClass.sentence (looseName value)
  else none

/-! ## Classes in frequent use -/

def alphabetic : CodeSet := Property.alphabetic.codes

def numeric : CodeSet := ofCategories Category.numbers

def digit : CodeSet := Category.decimalNumber.codes

def space : CodeSet := Property.whiteSpace.codes

/-- Letters, marks, decimal digits, connectors and the two joiners. -/
def word : CodeSet :=
  unions [alphabetic, ofCategories Category.marks, digit,
    Category.connectorPunctuation.codes, Property.joinControl.codes]

def asciiDigit : CodeSet := range 0x30 0x39

def asciiSpace : CodeSet := ⟨[(0x09, 0x0D), (0x20, 0x20)]⟩

def asciiWord : CodeSet := ⟨[(0x30, 0x39), (0x41, 0x5A), (0x5F, 0x5F), (0x61, 0x7A)]⟩

/-- The named ASCII classes that a bracketed class may hold. -/
def ofAsciiClass? : String → Option CodeSet
  | "alnum" => some ⟨[(0x30, 0x39), (0x41, 0x5A), (0x61, 0x7A)]⟩
  | "alpha" => some ⟨[(0x41, 0x5A), (0x61, 0x7A)]⟩
  | "ascii" => some (range 0 0x7F)
  | "blank" => some ⟨[(0x09, 0x09), (0x20, 0x20)]⟩
  | "cntrl" => some ⟨[(0x00, 0x1F), (0x7F, 0x7F)]⟩
  | "digit" => some asciiDigit
  | "graph" => some (range 0x21 0x7E)
  | "lower" => some (range 0x61 0x7A)
  | "print" => some (range 0x20 0x7E)
  | "punct" => some ⟨[(0x21, 0x2F), (0x3A, 0x40), (0x5B, 0x60), (0x7B, 0x7E)]⟩
  | "space" => some asciiSpace
  | "upper" => some (range 0x41 0x5A)
  | "word" => some asciiWord
  | "xdigit" => some ⟨[(0x30, 0x39), (0x41, 0x46), (0x61, 0x66)]⟩
  | _ => none

/-- The set with the other case of each ASCII letter in it. -/
def foldAsciiCase (s : CodeSet) : CodeSet :=
  let letters := (List.range 26).flatMap fun i => [(0x41 + i, 0x61 + i), (0x61 + i, 0x41 + i)]
  ofRanges (s.ranges ++ (letters.filter fun p => s.contains p.1).map fun p => (p.2, p.2))

end CodeSet

end PayloadCheck
