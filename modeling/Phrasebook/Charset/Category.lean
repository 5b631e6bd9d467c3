import Phrasebook.Charset.Ascii
import Phrasebook.Charset.Named

/-!
# Sets by general category

The names of the general categories and of their groups, with their characters.
-/

set_option autoImplicit false

namespace Phrasebook

open Text (Category)

/-! ## Names of categories -/

/-- The names of a category: its code of two letters, and the name in full. -/
def Text.Category.names : Category → List String
  | .upperLetter => ["Lu", "Uppercase_Letter"]
  | .lowerLetter => ["Ll", "Lowercase_Letter"]
  | .titleLetter => ["Lt", "Titlecase_Letter"]
  | .modifierLetter => ["Lm", "Modifier_Letter"]
  | .otherLetter => ["Lo", "Other_Letter"]
  | .nonspacingMark => ["Mn", "Nonspacing_Mark"]
  | .spacingMark => ["Mc", "Spacing_Mark"]
  | .enclosingMark => ["Me", "Enclosing_Mark"]
  | .digit => ["Nd", "Decimal_Number", "digit"]
  | .letterNumber => ["Nl", "Letter_Number"]
  | .otherNumber => ["No", "Other_Number"]
  | .connector => ["Pc", "Connector_Punctuation"]
  | .dash => ["Pd", "Dash_Punctuation"]
  | .opening => ["Ps", "Open_Punctuation"]
  | .closing => ["Pe", "Close_Punctuation"]
  | .initialQuote => ["Pi", "Initial_Punctuation"]
  | .finalQuote => ["Pf", "Final_Punctuation"]
  | .otherPunctuation => ["Po", "Other_Punctuation"]
  | .mathSymbol => ["Sm", "Math_Symbol"]
  | .currencySymbol => ["Sc", "Currency_Symbol"]
  | .modifierSymbol => ["Sk", "Modifier_Symbol"]
  | .otherSymbol => ["So", "Other_Symbol"]
  | .space => ["Zs", "Space_Separator"]
  | .lineSeparator => ["Zl", "Line_Separator"]
  | .paragraphSeparator => ["Zp", "Paragraph_Separator"]
  | .control => ["Cc", "Control", "cntrl"]
  | .format => ["Cf", "Format"]
  | .privateUse => ["Co", "Private_Use"]

namespace Charset

/-! ## Groups of categories -/

/-- The categories of letters that have case. -/
def casedLetterCategories : List Category := [.upperLetter, .lowerLetter, .titleLetter]

/-- The categories of letters. -/
def letterCategories : List Category := casedLetterCategories ++ [.modifierLetter, .otherLetter]

/-- The categories of marks. -/
def markCategories : List Category := [.nonspacingMark, .spacingMark, .enclosingMark]

/-- The categories of numbers. -/
def numberCategories : List Category := [.digit, .letterNumber, .otherNumber]

/-- The categories of punctuation. -/
def punctuationCategories : List Category :=
  [.connector, .dash, .opening, .closing, .initialQuote, .finalQuote, .otherPunctuation]

/-- The categories of symbols. -/
def symbolCategories : List Category :=
  [.mathSymbol, .currencySymbol, .modifierSymbol, .otherSymbol]

/-- The categories of separators. -/
def separatorCategories : List Category := [.space, .lineSeparator, .paragraphSeparator]

/-- The categories of characters that are shown or take room. -/
def visibleCategories : List Category :=
  letterCategories ++ markCategories ++ numberCategories ++ punctuationCategories ++
    symbolCategories ++ separatorCategories

/-- All categories. -/
def categories : List Category := visibleCategories ++ [.control, .format, .privateUse]

/-- The letters. -/
def letter : Charset := ofCategories letterCategories

/-- The decimal digits. -/
def digit : Charset := ofCategories [.digit]

/-- The numbers. -/
def numeric : Charset := ofCategories numberCategories

/-- The characters that have a general category. -/
def assigned : Charset := ofCategories categories

/-- The characters that have none. -/
def unassigned : Charset := assigned.compl

/-- The groups of categories. -/
def categoryGroups : List NamedSet :=
  [⟨["LC", "Cased_Letter"], ofCategories casedLetterCategories⟩,
   ⟨["L", "Letter"], letter⟩,
   ⟨["M", "Mark", "Combining_Mark"], ofCategories markCategories⟩,
   ⟨["N", "Number"], numeric⟩,
   ⟨["P", "Punctuation", "punct"], ofCategories punctuationCategories⟩,
   ⟨["S", "Symbol"], ofCategories symbolCategories⟩,
   ⟨["Z", "Separator"], ofCategories separatorCategories⟩,
   ⟨["C", "Other"], (ofCategories visibleCategories).compl⟩,
   ⟨["Cn", "Unassigned"], unassigned⟩,
   ⟨["Any"], all⟩,
   ⟨["Assigned"], assigned⟩,
   ⟨["ASCII"], ascii⟩]

/-- The characters of the category, or of the group of categories, with a name that is given
loosely. -/
def ofCategoryName? (loose : Text) : Option Charset :=
  match categories.find? fun k => isNamed loose k.names with
  | some k => some (ofCategories [k])
  | none => NamedSet.find? categoryGroups loose

end Charset

end Phrasebook
