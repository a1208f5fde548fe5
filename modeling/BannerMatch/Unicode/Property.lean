import BannerMatch.Text.Ascii
import BannerMatch.Text.Blank
import BannerMatch.Unicode.Age
import BannerMatch.Unicode.CodeSet
import BannerMatch.Unicode.GeneralCategory
import BannerMatch.Unicode.PropertyList
import BannerMatch.Unicode.Script
import BannerMatch.Unicode.ScriptExtension
import BannerMatch.Unicode.Segmentation

/-!
# Properties of characters

* `category?`, `script?`, `age?` and their like look up one value of a property by name.
* The derived properties (`alphabetic`, `word`, …) follow their definitions in the standard.
* `property?` and `propertyValue?` answer the two forms in which a pattern names a property.

Names are compared loosely: case, blanks, hyphens, underscores and a leading `is` do not count.
-/

namespace BannerMatch.Unicode

/-! ### Names -/

/-- Drops what does not count in a name, case aside. -/
def looseChars (cs : List Char) : List Char :=
  (cs.filter fun c => !(c == ' ' || c == '_' || c == '-') && c.toNat < 128).map Text.lowerAscii

/-- The form of a name in which names are compared.  A leading `is` is dropped, except from `isc`,
which is a name of its own. -/
def looseName (name : List Char) : List Char :=
  match name with
  | a :: b :: rest =>
      if Text.lowerAscii a = 'i' ∧ Text.lowerAscii b = 's' then
        let short := looseChars rest
        if short = ['c'] then ['i', 's', 'c'] else short
      else looseChars name
  | _ => looseChars name

/-- Whether one of `names` is the loose name `key`. -/
def named (key : List Char) (names : List String) : Bool :=
  names.any fun n => looseChars n.toList == key

/-- The entry of a table whose names include the loose name `key`. -/
def findNamed {α : Type} (table : List (List String × α)) (key : List Char) :
    Option (List String × α) :=
  table.find? fun entry => named key entry.1

/-- The code points of a value in a table of values. -/
def valueSet? (table : List (List String × List String)) (key : List Char) : Option CodeSet :=
  (findNamed table key).map fun entry => .ofRows entry.2

/-! ### General categories -/

/-- The code points of the general categories with the given short names. -/
def categories (short : List String) : CodeSet :=
  .unions (short.map fun n =>
    ((generalCategories.find? fun entry => entry.1.contains n).map
      fun entry => CodeSet.ofRows entry.2).getD .empty)

/-- The decimal digits of all scripts. -/
def digit : CodeSet := categories ["Nd"]

/-- The code points assigned to a character. -/
def assigned : CodeSet := (categories ["Cn"]).compl

/-- The general category, or union of categories, of a given name. -/
def category? (key : List Char) : Option CodeSet :=
  if key = ['a', 'n', 'y'] then some .all
  else if key = ['a', 's', 's', 'i', 'g', 'n', 'e', 'd'] then some assigned
  else if key = ['a', 's', 'c', 'i', 'i'] then some (.range 0 0x7F)
  else match findNamed categoryGroups key with
    | some group => some (categories group.2)
    | none => valueSet? generalCategories key

/-! ### Scripts, ages and breaks -/

/-- The script of a given name. -/
def script? (key : List Char) : Option CodeSet := valueSet? scripts key

/-- The characters used with the script of a given name. -/
def scriptExtension? (key : List Char) : Option CodeSet :=
  (findNamed scripts key).map fun entry =>
    let others := CodeSet.unions (scriptExtensions.map fun e => .ofRows e.2)
    let shared := (scriptExtensions.filter fun e => e.1.any fun n => entry.1.contains n).map
      fun e => CodeSet.ofRows e.2
    ((CodeSet.ofRows entry.2).diff others).union (.unions shared)

/-- The characters assigned up to a given version. -/
def age? (key : List Char) : Option CodeSet :=
  if ages.any fun entry => named key entry.1 then
    let older := ages.takeWhile fun entry => !named key entry.1
    some (.unions ((older.map fun entry => CodeSet.ofRows entry.2) ++
      ((valueSet? ages key).toList)))
  else none

/-- The precomposed Hangul syllables. -/
def hangulSyllables : CodeSet := .range 0xAC00 0xD7A3

/-- The Hangul syllables without a final consonant: every twenty-eighth one. -/
def openSyllables : CodeSet := .ofCodes ((List.range 399).map fun k => 0xAC00 + 28 * k)

/-- A value of the grapheme cluster break property. -/
def graphemeBreak? (key : List Char) : Option CodeSet :=
  if key = ['l', 'v'] then some openSyllables
  else if key = ['l', 'v', 't'] then some (hangulSyllables.diff openSyllables)
  else valueSet? graphemeBreaks key

/-! ### Binary properties -/

/-- A property that is given by a list. -/
def listed (name : String) : CodeSet :=
  ((listedProperties.find? fun entry => entry.1.contains name).map
    fun entry => CodeSet.ofRows entry.2).getD .empty

/-- The letters. -/
def letter : CodeSet := categories ["Lu", "Ll", "Lt", "Lm", "Lo"]

/-- The combining marks. -/
def mark : CodeSet := categories ["Mn", "Mc", "Me"]

/-- White space. -/
def whiteSpace : CodeSet := Text.blanks

/-- Letters and what is used like a letter. -/
def alphabetic : CodeSet :=
  .unions [letter, categories ["Nl"], listed "Other_Alphabetic"]

/-- Lower case. -/
def lowercase : CodeSet := (categories ["Ll"]).union (listed "Other_Lowercase")

/-- Upper case. -/
def uppercase : CodeSet := (categories ["Lu"]).union (listed "Other_Uppercase")

/-- Characters with case. -/
def cased : CodeSet := .unions [lowercase, uppercase, categories ["Lt"]]

/-- Characters of words: letters, marks, digits, connectors and joiners. -/
def word : CodeSet :=
  .unions [alphabetic, mark, digit, categories ["Pc"], listed "Join_Control"]

/-- Marks and fillers that extend the grapheme before them. -/
def graphemeExtend : CodeSet :=
  (categories ["Mn", "Me"]).union (listed "Other_Grapheme_Extend")

/-- Characters that a grapheme can start with. -/
def graphemeBase : CodeSet :=
  ((categories ["Cc", "Cf", "Co", "Cn", "Zl", "Zp"]).union graphemeExtend).compl.diff
    (.range 0xD800 0xDFFF)

/-- Characters reserved for the syntax of patterns. -/
def patternReserved : CodeSet := (listed "Pattern_Syntax").union (listed "Pattern_White_Space")

/-- Starts of identifiers. -/
def identifierStart : CodeSet :=
  (CodeSet.unions [letter, categories ["Nl"], listed "Other_ID_Start"]).diff patternReserved

/-- Characters of identifiers. -/
def identifierContinue : CodeSet :=
  (CodeSet.unions [identifierStart, categories ["Mn", "Mc", "Nd", "Pc"],
    listed "Other_ID_Continue"]).diff patternReserved

/-- Format characters and fillers that show nothing of their own. -/
def defaultIgnorable : CodeSet :=
  (CodeSet.unions [listed "Other_Default_Ignorable_Code_Point", categories ["Cf"],
    listed "Variation_Selector"]).diff
    (.unions [whiteSpace, .range 0xFFF9 0xFFFB, .range 0x13430 0x1343F,
      listed "Prepended_Concatenation_Mark"])

/-- Characters that change in lower case. -/
def changesLowered : CodeSet := (uppercase.union (categories ["Lt"])).diff lowerFixed

/-- Characters that change in upper case. -/
def changesRaised : CodeSet := (lowercase.diff upperFixed).union upperExtra

/-- Characters that change in title case. -/
def changesTitled : CodeSet := (changesRaised.union titleExtra).diff titleFixed

/-- Characters that change when case is folded. -/
def changesFolded : CodeSet := (changesLowered.diff foldFixed).union foldExtra

/-- The properties that are built from others: their names and their members. -/
def derivedProperties : List (List String × (Unit → CodeSet)) := [
  (["Alpha", "Alphabetic"], fun _ => alphabetic),
  (["Lower", "Lowercase"], fun _ => lowercase),
  (["Upper", "Uppercase"], fun _ => uppercase),
  (["Cased"], fun _ => cased),
  (["CI", "Case_Ignorable"],
    fun _ => (categories ["Mn", "Me", "Cf", "Lm", "Sk"]).union midWord),
  (["CWL", "Changes_When_Lowercased"], fun _ => changesLowered),
  (["CWU", "Changes_When_Uppercased"], fun _ => changesRaised),
  (["CWT", "Changes_When_Titlecased"], fun _ => changesTitled),
  (["CWCF", "Changes_When_Casefolded"], fun _ => changesFolded),
  (["CWCM", "Changes_When_Casemapped"],
    fun _ => .unions [changesLowered, changesRaised, changesTitled]),
  (["WSpace", "White_Space", "Space"], fun _ => whiteSpace),
  (["Math"], fun _ => (categories ["Sm"]).union (listed "Other_Math")),
  (["IDS", "ID_Start"], fun _ => identifierStart),
  (["IDC", "ID_Continue"], fun _ => identifierContinue),
  (["XIDS", "XID_Start"], fun _ => identifierStart.diff unstableStart),
  (["XIDC", "XID_Continue"], fun _ => identifierContinue.diff unstableContinue),
  (["DI", "Default_Ignorable_Code_Point"], fun _ => defaultIgnorable),
  (["Gr_Ext", "Grapheme_Extend"], fun _ => graphemeExtend),
  (["Gr_Base", "Grapheme_Base"], fun _ => graphemeBase)
]

/-- The binary property of a given name. -/
def binary? (key : List Char) : Option CodeSet :=
  match findNamed derivedProperties key with
  | some entry => some (entry.2 ())
  | none => valueSet? listedProperties key

/-! ### Queries -/

/-- The set that a lone name stands for: a binary property, else a general category, else a
script. -/
def property? (name : List Char) : Option CodeSet :=
  let key := looseName name
  match binary? key with
  | some s => some s
  | none => match category? key with
    | some s => some s
    | none => script? key

/-- The set that a property name with a value stands for. -/
def propertyValue? (name value : List Char) : Option CodeSet :=
  let key := looseName value
  let prop := looseName name
  if named prop ["gc", "General_Category"] then category? key
  else if named prop ["sc", "Script"] then script? key
  else if named prop ["scx", "Script_Extensions"] then scriptExtension? key
  else if named prop ["Age"] then age? key
  else if named prop ["GCB", "Grapheme_Cluster_Break"] then graphemeBreak? key
  else if named prop ["WB", "Word_Break"] then valueSet? wordBreaks key
  else if named prop ["SB", "Sentence_Break"] then valueSet? sentenceBreaks key
  else none

end BannerMatch.Unicode
