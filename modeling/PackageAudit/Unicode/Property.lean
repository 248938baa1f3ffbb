import PackageAudit.Unicode.Binary
import PackageAudit.Unicode.Script

/-!
# Properties by name

A property of characters can be asked for by one name (`Letter`, `Greek`, `Alphabetic`) or by a name and a
value (`Script=Greek`). Names are compared loosely: case, spaces, hyphens, underscores and an initial `is`
do not count.
-/

namespace PackageAudit.Unicode.Property

/-- A name as names are compared: lower case, without spaces, hyphens and underscores, without an initial
`is`, and without characters outside ASCII. -/
def normalName (name : List Char) : String :=
  let plain (text : List Char) : List Char :=
    (text.filter fun c => c.toNat < 0x80 && c != ' ' && c != '-' && c != '_').map Char.toLower
  match name with
  | i :: s :: rest =>
    if i.toLower = 'i' ∧ s.toLower = 's' then
      if plain rest = ['c'] then "isc" else String.ofList (plain rest)
    else String.ofList (plain name)
  | _ => String.ofList (plain name)

/-- The general categories and their groups by name. -/
def categories : List (List String × (Category → Bool)) := [
  (["lu", "uppercaseletter"], (· == .uppercaseLetter)),
  (["ll", "lowercaseletter"], (· == .lowercaseLetter)),
  (["lt", "titlecaseletter"], (· == .titlecaseLetter)),
  (["lm", "modifierletter"], (· == .modifierLetter)),
  (["lo", "otherletter"], (· == .otherLetter)),
  (["mn", "nonspacingmark"], (· == .nonspacingMark)),
  (["mc", "spacingmark"], (· == .spacingMark)),
  (["me", "enclosingmark"], (· == .enclosingMark)),
  (["nd", "decimalnumber", "digit"], (· == .decimalNumber)),
  (["nl", "letternumber"], (· == .letterNumber)),
  (["no", "othernumber"], (· == .otherNumber)),
  (["pc", "connectorpunctuation"], (· == .connectorPunctuation)),
  (["pd", "dashpunctuation"], (· == .dashPunctuation)),
  (["ps", "openpunctuation"], (· == .openPunctuation)),
  (["pe", "closepunctuation"], (· == .closePunctuation)),
  (["pi", "initialpunctuation"], (· == .initialPunctuation)),
  (["pf", "finalpunctuation"], (· == .finalPunctuation)),
  (["po", "otherpunctuation"], (· == .otherPunctuation)),
  (["sm", "mathsymbol"], (· == .mathSymbol)),
  (["sc", "currencysymbol"], (· == .currencySymbol)),
  (["sk", "modifiersymbol"], (· == .modifierSymbol)),
  (["so", "othersymbol"], (· == .otherSymbol)),
  (["zs", "spaceseparator"], (· == .spaceSeparator)),
  (["zl", "lineseparator"], (· == .lineSeparator)),
  (["zp", "paragraphseparator"], (· == .paragraphSeparator)),
  (["cc", "control", "cntrl"], (· == .control)),
  (["cf", "format"], (· == .format)),
  (["co", "privateuse"], (· == .privateUse)),
  (["cn", "unassigned"], (· == .unassigned)),
  (["l", "letter"], Category.isLetter),
  (["lc", "casedletter"], Category.isCasedLetter),
  (["m", "mark", "combiningmark"], Category.isMark),
  (["n", "number"], Category.isNumber),
  (["p", "punctuation", "punct"], Category.isPunctuation),
  (["s", "symbol"], Category.isSymbol),
  (["z", "separator"], Category.isSeparator),
  (["c", "other"], Category.isOther)]

/-- The general category, or group of categories, with a normal name. -/
def categoryNamed? (name : String) : Option (Char → Bool) :=
  match name with
  | "any" => some fun _ => true
  | "ascii" => some fun c => c.toNat < 0x80
  | "assigned" => some fun c => Category.of c != .unassigned
  | _ => (categories.find? fun entry => entry.1.contains name).map fun entry c => entry.2 (Category.of c)

/-- The code of the script with a normal name. -/
def scriptNamed? (name : String) : Option String :=
  (Script.names.find? fun entry =>
    normalName entry.1.toList == name || entry.2.any (normalName ·.toList == name)).map (·.1)

/-- The property with a single name: a binary property, else a category, else a script. -/
def named? (name : List Char) : Option (Char → Bool) :=
  let name := normalName name
  let binary := if name = "cf" ∨ name = "sc" ∨ name = "lc" then none else Binary.named? name
  binary.or ((categoryNamed? name).or ((scriptNamed? name).map fun code c => Script.of c == code))

/-- The property with a name and a value. -/
def valued? (name value : List Char) : Option (Char → Bool) :=
  match normalName name with
  | "gc" | "generalcategory" => categoryNamed? (normalName value)
  | "sc" | "script" => (scriptNamed? (normalName value)).map fun code c => Script.of c == code
  | "scx" | "scriptextensions" => (scriptNamed? (normalName value)).map Script.usedIn
  | _ => none

end PackageAudit.Unicode.Property
