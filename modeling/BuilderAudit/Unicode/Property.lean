import BuilderAudit.Text.Basic
import BuilderAudit.Unicode.AgeTable
import BuilderAudit.Unicode.BinaryPropertyTable
import BuilderAudit.Unicode.GeneralCategoryTable
import BuilderAudit.Unicode.ScriptExtensionTable
import BuilderAudit.Unicode.ScriptTable
import BuilderAudit.Unicode.SegmentationTable

/-!
# Character properties by name

A property is asked for by one name (`Lu`, `Greek`, `Alphabetic`) or by the name of a property and a value of it
(`Script=Greek`). Names are compared loosely: letter case, blanks, hyphens, underscores and a leading `is` do not count.

* `Property.looseName` : the form in which names are compared;
* `Property.Query.resolve` : the characters that a query asks for, none when there is no such property;
* `Property.word`, `Property.digit`, `Property.space` : the sets behind the short escapes.
-/

namespace BuilderAudit.Property

/-- The form in which names of properties and values are compared. -/
def looseName (name : String) : String :=
  let chars := name.toList
  let (isStart, rest) := match chars with
    | i :: s :: rest => if i.toLower == 'i' && s.toLower == 's' then (true, rest) else (false, chars)
    | _ => (false, chars)
  let kept := (rest.filter fun c => c.toNat < 128 && c != ' ' && c != '_' && c != '-').map Char.toLower
  if isStart && kept == ['c'] then "isc" else String.ofList kept

/-- What a pattern asks the property tables for. -/
inductive Query
  | named (name : String)
  | valued (property value : String)
  deriving DecidableEq, Repr

/-- The names of each group of general categories, with the categories that it joins. -/
def categoryGroups : List (List String × List String) := [
  (["lc", "casedletter"], ["lu", "ll", "lt"]),
  (["l", "letter"], ["lu", "ll", "lt", "lm", "lo"]),
  (["m", "mark", "combiningmark"], ["mn", "mc", "me"]),
  (["n", "number"], ["nd", "nl", "no"]),
  (["p", "punctuation", "punct"], ["pc", "pd", "ps", "pe", "pi", "pf", "po"]),
  (["s", "symbol"], ["sm", "sc", "sk", "so"]),
  (["z", "separator"], ["zs", "zl", "zp"])]

/-- The scalar values that are assigned to a character, private use included. -/
def assigned : CodeSet := CodeSet.unionAll (generalCategoryTable.map fun row => Packed.set row.packed)

def categories (names : List String) : CodeSet :=
  CodeSet.unionAll (names.filterMap (NamedSet.find? generalCategoryTable))

def category? (name : String) : Option CodeSet :=
  if name == "any" then some CodeSet.scalars
  else if name == "assigned" then some assigned
  else if name == "ascii" then some ⟨[⟨0, 0x7F⟩]⟩
  else if name == "cn" || name == "unassigned" then some assigned.compl
  else if name == "c" || name == "other" then some (CodeSet.union (categories ["cc", "cf", "co"]) assigned.compl)
  else match categoryGroups.find? fun (names, _) => names.contains name with
    | some (_, parts) => some (categories parts)
    | none => NamedSet.find? generalCategoryTable name

def script? (name : String) : Option CodeSet := NamedSet.find? scriptTable name

def scriptExtension? (name : String) : Option CodeSet := do
  let row ← scriptTable.find? fun row => row.names.contains name
  let extended := scriptExtensionTable.find? fun ext => ext.names.any row.names.contains
  return Packed.set (extended.getD row).packed

/-- The code points assigned in the named version or before. -/
def age? (name : String) : Option CodeSet :=
  let before := ageTable.takeWhile fun row => !row.names.contains name
  match ageTable.drop before.length with
  | [] => none
  | row :: _ => some (CodeSet.unionAll ((before ++ [row]).map fun row => Packed.set row.packed))

/-- The binary property, general category or script of a name, in that order. The three names that are also names of
properties without characters of their own mean the general category. -/
def named? (name : String) : Option CodeSet :=
  (NamedSet.find? binaryPropertyTable name <|> category? name <|> script? name)

def valued? (property value : String) : Option CodeSet :=
  if ["gc", "generalcategory"].contains property then category? value
  else if ["sc", "script"].contains property then script? value
  else if ["scx", "scriptextensions"].contains property then scriptExtension? value
  else if property == "age" then age? value
  else if ["gcb", "graphemeclusterbreak"].contains property then NamedSet.find? graphemeBreakTable value
  else if ["wb", "wordbreak"].contains property then NamedSet.find? wordBreakTable value
  else if ["sb", "sentencebreak"].contains property then NamedSet.find? sentenceBreakTable value
  else none

def Query.resolve : Query → Option CodeSet
  | named name => named? (looseName name)
  | valued property value => valued? (looseName property) (looseName value)

def space : CodeSet := ⟨blankRanges.map fun (first, last) => ⟨first, last⟩⟩

def digit : CodeSet := categories ["nd"]

def alphabetic : CodeSet := (NamedSet.find? binaryPropertyTable "alphabetic").getD CodeSet.empty

/-- Characters of numbers: digits, letters and other signs that stand for one. -/
def numeric : CodeSet := categories ["nd", "nl", "no"]

/-- Word characters: letters, marks, decimal digits, connecting punctuation and joiners. -/
def word : CodeSet :=
  CodeSet.unionAll [alphabetic, categories ["mn", "mc", "me", "nd", "pc"], ⟨[⟨0x200C, 0x200D⟩]⟩]

end BuilderAudit.Property
