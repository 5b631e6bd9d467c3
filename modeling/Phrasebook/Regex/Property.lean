import Phrasebook.Charset.Segment
import Phrasebook.Regex.Fault

/-!
# Questions for properties

A set can be given by a property of its characters: a general category or a script, alone or as
the value of its property, a property that a character has or has not, or the value of a few other
properties. A question is answered by a set or by what is wrong with it.
-/

set_option autoImplicit false

namespace Phrasebook.Regex

/-! ## Questions -/

/-- A question for the characters with a property. -/
structure Query where
  /-- The property whose value is given, if the question names one. -/
  property : Option Text
  /-- The value, or the property itself. -/
  value : Text
  /-- Whether all other characters are meant. -/
  negated : Bool
  deriving DecidableEq, Repr

/-- The question that stands between braces. -/
def Query.ofText (negated : Bool) (t : Text) : Query :=
  match Text.splitFirst? "!=".toList t, Text.splitFirst? [':'] t, Text.splitFirst? ['='] t with
  | some (name, value), _, _ => ⟨some name, value, !negated⟩
  | none, some (name, value), _ => ⟨some name, value, negated⟩
  | none, none, some (name, value) => ⟨some name, value, negated⟩
  | none, none, none => ⟨none, t, negated⟩

/-! ## Properties -/

/-- The properties with values that a question can ask for. -/
inductive ValuedProperty where
  /-- The general category. -/
  | generalCategory
  /-- The script that a character belongs to. -/
  | script
  /-- The scripts that a character is used in. -/
  | scriptExtensions
  /-- The version of Unicode that has a character. -/
  | age
  /-- The class for graphemes. -/
  | graphemeClusterBreak
  /-- The class for words. -/
  | wordBreak
  /-- The class for sentences. -/
  | sentenceBreak
  deriving DecidableEq, Repr

/-- The names of the properties with values. -/
def valuedPropertyNames : List (List String × ValuedProperty) :=
  [(["General_Category", "gc"], .generalCategory), (["Script", "sc"], .script),
   (["Script_Extensions", "scx"], .scriptExtensions), (["Age"], .age),
   (["Grapheme_Cluster_Break", "GCB"], .graphemeClusterBreak),
   (["Word_Break", "WB"], .wordBreak), (["Sentence_Break", "SB"], .sentenceBreak)]

/-- The names of properties that characters have, but that no question can ask for. -/
def otherPropertyNames : List String :=
  ["Bidi_Class", "bc", "Bidi_Mirroring_Glyph", "bmg", "Bidi_Paired_Bracket", "bpb",
   "Bidi_Paired_Bracket_Type", "bpt", "Block", "blk", "Canonical_Combining_Class", "ccc",
   "Case_Folding", "cf", "Changes_When_NFKC_Casefolded", "CWKCF", "Composition_Exclusion", "CE",
   "Decomposition_Mapping", "dm", "Decomposition_Type", "dt", "East_Asian_Width", "ea",
   "Equivalent_Unified_Ideograph", "EqUIdeo", "Expands_On_NFC", "XO_NFC", "Expands_On_NFD",
   "XO_NFD", "Expands_On_NFKC", "XO_NFKC", "Expands_On_NFKD", "XO_NFKD", "FC_NFKC_Closure",
   "FC_NFKC", "Full_Composition_Exclusion", "Comp_Ex", "Hangul_Syllable_Type", "hst",
   "Indic_Conjunct_Break", "InCB", "Indic_Positional_Category", "InPC",
   "Indic_Syllabic_Category", "InSC", "ISO_Comment", "isc", "Jamo_Short_Name", "JSN",
   "Joining_Group", "jg", "Joining_Type", "jt", "Line_Break", "lb", "Lowercase_Mapping", "lc",
   "Name", "na", "Name_Alias", "NFC_Quick_Check", "NFC_QC", "NFD_Quick_Check", "NFD_QC",
   "NFKC_Casefold", "NFKC_CF", "NFKC_Quick_Check", "NFKC_QC", "NFKC_Simple_Casefold",
   "NFKC_SCF", "NFKD_Quick_Check", "NFKD_QC", "Numeric_Type", "nt", "Numeric_Value", "nv",
   "Simple_Case_Folding", "scf", "sfc", "Simple_Lowercase_Mapping", "slc",
   "Simple_Titlecase_Mapping", "stc", "Simple_Uppercase_Mapping", "suc", "Titlecase_Mapping",
   "tc", "Unicode_1_Name", "na1", "Unicode_Radical_Stroke", "cjkRSUnicode", "kRSUnicode", "URS",
   "Uppercase_Mapping", "uc", "Vertical_Orientation", "vo", "cjkAccountingNumeric",
   "kAccountingNumeric", "cjkCompatibilityVariant", "kCompatibilityVariant", "cjkIICore",
   "kIICore", "cjkIRG_GSource", "kIRG_GSource", "cjkIRG_HSource", "kIRG_HSource",
   "cjkIRG_JSource", "kIRG_JSource", "cjkIRG_KPSource", "kIRG_KPSource", "cjkIRG_KSource",
   "kIRG_KSource", "cjkIRG_MSource", "kIRG_MSource", "cjkIRG_SSource", "kIRG_SSource",
   "cjkIRG_TSource", "kIRG_TSource", "cjkIRG_UKSource", "kIRG_UKSource", "cjkIRG_USource",
   "kIRG_USource", "cjkIRG_VSource", "kIRG_VSource", "cjkOtherNumeric", "kOtherNumeric",
   "cjkPrimaryNumeric", "kPrimaryNumeric", "kEH_Cat", "kEH_Core", "kEH_Desc", "kEH_HG",
   "kEH_IFAO", "kEH_JSesh", "kEH_NoMirror", "kEH_NoRotate"]

/-- The property with values that has a name. -/
def valuedProperty? (loose : Text) : Option ValuedProperty :=
  (valuedPropertyNames.find? fun entry => isNamed loose entry.1).map fun entry => entry.2

/-- The names that categories share with properties. Alone they stand for the categories. -/
def sharedNames : List String := ["Cf", "Sc", "Lc"]

/-- The names of a category, and of values of the property of scripts, that no character has. -/
def emptyValues : List String :=
  ["Cs", "Surrogate", "Zzzz", "Unknown", "Hrkt", "Katakana_Or_Hiragana"]

/-! ## Answers -/

/-- A set, or a cause if there is none. -/
def orCause (cause : Cause) : Option Charset → Except Cause Charset
  | some s => .ok s
  | none => .error cause

/-- The characters with a value of a property. -/
def ValuedProperty.charset? (loose : Text) : ValuedProperty → Option Charset
  | .generalCategory => Charset.ofCategoryName? loose
  | .script => (Text.Script.find? loose).map Charset.ofScript
  | .scriptExtensions => (Text.Script.find? loose).map Charset.usedIn
  | .age => Charset.inVersion? loose
  | .graphemeClusterBreak => NamedSet.find? Charset.graphemeClasses loose
  | .wordBreak => NamedSet.find? Charset.wordClasses loose
  | .sentenceBreak => NamedSet.find? Charset.sentenceClasses loose

/-- The characters with a general category or of a script. -/
def categoryOrScript (loose : Text) : Except Cause Charset :=
  match Charset.ofCategoryName? loose, Text.Script.find? loose with
  | some s, _ => .ok s
  | none, some s => .ok (.ofScript s)
  | none, none =>
      .error (if isNamed loose emptyValues then .propertyValueUnknown else .propertyUnknown)

/-- The characters with a property that has a name, or with a value that can be named alone. -/
def plainCharset (loose : Text) : Except Cause Charset :=
  if isNamed loose sharedNames then categoryOrScript loose
  else
    match NamedSet.find? Charset.traits loose with
    | some s => .ok s
    | none =>
        if (valuedProperty? loose).isSome || isNamed loose otherPropertyNames then
          .error .propertyUnknown
        else categoryOrScript loose

/-- Whether a property has a name. -/
def isProperty (loose : Text) : Bool :=
  (NamedSet.find? Charset.traits loose).isSome || isNamed loose otherPropertyNames

/-- The characters that a question asks for, before those outside are taken. -/
def Query.charset (q : Query) : Except Cause Charset :=
  let value := looseName q.value
  match q.property.map looseName with
  | none => plainCharset value
  | some name =>
      match valuedProperty? name with
      | some property => orCause .propertyValueUnknown (property.charset? value)
      | none => .error (if isProperty name then .propertyValueUnknown else .propertyUnknown)

end Phrasebook.Regex
