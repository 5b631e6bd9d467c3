import Phrasebook.Charset.Category
import Phrasebook.Charset.Fold
import Phrasebook.Text.Blank
import Phrasebook.Text.Trait

/-!
# Sets by property

The properties that a character either has or has not. Most of them follow from the general
categories and a table of further characters; `traits` lists them with their names.
-/

set_option autoImplicit false

namespace Phrasebook.Charset

/-! ## Letters and numbers -/

/-- The characters with the property `White_Space`. -/
def blank : Charset := ofRanges Text.blankRanges

/-- The marks and symbols that count as letters. -/
def otherAlphabetic : Charset := ofRanges Text.otherAlphabeticRanges

/-- The letters, the numbers that look like letters, and what counts as a letter. -/
def alphabetic : Charset :=
  unions [ofCategories (letterCategories ++ [.letterNumber]), otherAlphabetic]

/-- The characters of words: letters, marks, digits, connecting punctuation, and the characters
that join others. -/
def word : Charset :=
  unions [alphabetic, ofCategories (markCategories ++ [.digit, .connector]),
    interval '\u200c' '\u200d']

/-- The ideographs. -/
def ideographic : Charset := ofRanges Text.ideographicRanges

/-- The characters of mathematics. -/
def math : Charset := (ofCategories [.mathSymbol]).union (ofRanges Text.otherMathRanges)

/-- The hexadecimal digits in all their widths. -/
def hexDigit : Charset :=
  asciiHexDigit.union (ofRanges [(0xFF10, 0xFF19), (0xFF21, 0xFF26), (0xFF41, 0xFF46)])

/-- The vowels that are written before the consonants after which they are spoken. -/
def logicalOrderException : Charset :=
  ofRanges [(0xE40, 0xE44), (0xEC0, 0xEC4), (0x19B5, 0x19B7), (0x19BA, 0x19BA), (0xAAB5, 0xAAB6),
    (0xAAB9, 0xAAB9), (0xAABB, 0xAABC)]

/-! ## Case -/

/-- The small letters and the characters that look like them. -/
def lowercase : Charset :=
  (ofCategories [.lowerLetter]).union (ofRanges Text.otherLowercaseRanges)

/-- The capital letters and the characters that look like them. -/
def uppercase : Charset :=
  (ofCategories [.upperLetter]).union (ofRanges Text.otherUppercaseRanges)

/-- The title case letters. -/
def titlecase : Charset := ofCategories [.titleLetter]

/-- The characters that folding changes. Three are equal to other characters that it keeps. -/
def changedByFolding : Charset :=
  ((ofChars (Text.foldPairs.map Prod.fst)).union (ofRanges Text.foldedApartRanges)).difference
    (ofChars ['\u1fbe', '\u1fd3', '\u1fe3'])

/-- The characters that have another form in small letters. Cherokee is folded to its capitals. -/
def changedToLower : Charset :=
  (changedByFolding.difference lowercase).union (ofRanges [(0x13A0, 0x13F5)])

/-- The characters that have another form in capital letters. -/
def changedToUpper : Charset :=
  ((ofChars (Text.foldPairs.flatMap fun p => [p.1, p.2])).difference uppercase).union
    (ofRanges Text.capitalizedApartRanges)

/-- The characters that have another form at the start of a title. Georgian has no such form. -/
def changedToTitle : Charset :=
  (changedToUpper.union (ofChars ['\u01c4', '\u01c7', '\u01ca', '\u01f1'])).difference
    (titlecase.union (ofRanges [(0x10D0, 0x10FA), (0x10FD, 0x10FF)]))

/-! ## Marks and graphemes -/

/-- The characters that go on a grapheme although they take space. -/
def otherGraphemeExtend : Charset := ofRanges Text.otherGraphemeExtendRanges

/-- The characters that go on a grapheme. -/
def graphemeExtend : Charset :=
  (ofCategories [.nonspacingMark, .enclosingMark]).union otherGraphemeExtend

/-- The characters that a grapheme begins with. -/
def graphemeBase : Charset :=
  (assigned.difference
    (ofCategories [.control, .format, .privateUse, .lineSeparator, .paragraphSeparator])).difference
      graphemeExtend

/-- The marks that stand before numbers and enclose them. -/
def prependedMark : Charset :=
  ofRanges [(0x600, 0x605), (0x6DD, 0x6DD), (0x70F, 0x70F), (0x890, 0x891), (0x8E2, 0x8E2),
    (0x110BD, 0x110BD), (0x110CD, 0x110CD)]

/-- The punctuation within words: between letters, or between letters and digits. -/
def innerPunctuation : Charset :=
  ofRanges [(0x27, 0x27), (0x2E, 0x2E), (0x3A, 0x3A), (0xB7, 0xB7), (0x387, 0x387),
    (0x55F, 0x55F), (0x5F4, 0x5F4), (0x2018, 0x2019), (0x2024, 0x2024), (0x2027, 0x2027),
    (0xFE13, 0xFE13), (0xFE52, 0xFE52), (0xFE55, 0xFE55), (0xFF07, 0xFF07), (0xFF0E, 0xFF0E),
    (0xFF1A, 0xFF1A)]

/-- The characters that are passed over when the case of a letter is found from those around. -/
def caseIgnorable : Charset :=
  (ofCategories [.nonspacingMark, .enclosingMark, .format, .modifierLetter,
    .modifierSymbol]).union innerPunctuation

/-! ## Names in programs -/

/-- The white space of patterns. -/
def patternBlank : Charset :=
  ofRanges [(0x9, 0xD), (0x20, 0x20), (0x85, 0x85), (0x200E, 0x200F), (0x2028, 0x2029)]

/-- The characters that are kept for the syntax of patterns. -/
def patternSyntax : Charset := ofRanges Text.patternSyntaxRanges

/-- The characters that are no letters and may begin names. -/
def otherNameStart : Charset :=
  ofRanges [(0x1885, 0x1886), (0x2118, 0x2118), (0x212E, 0x212E), (0x309B, 0x309C)]

/-- The characters that are neither letters, marks nor digits and may stand in names. -/
def otherNameContinue : Charset :=
  ofRanges [(0xB7, 0xB7), (0x387, 0x387), (0x1369, 0x1371), (0x19DA, 0x19DA), (0x200C, 0x200D),
    (0x30FB, 0x30FB), (0xFF65, 0xFF65)]

/-- The characters that may begin names. -/
def nameStart : Charset :=
  (unions [ofCategories (letterCategories ++ [.letterNumber]), otherNameStart]).difference
    (patternSyntax.union patternBlank)

/-- The characters that may stand in names. -/
def nameContinue : Charset :=
  (unions [nameStart, ofCategories [.nonspacingMark, .spacingMark, .digit, .connector],
    otherNameContinue]).difference (patternSyntax.union patternBlank)

/-- The characters that break names when they are normalized, wherever they stand. -/
def unstableInNames : Charset :=
  ofRanges [(0x37A, 0x37A), (0x309B, 0x309C), (0xFC5E, 0xFC63), (0xFDFA, 0xFDFB),
    (0xFE70, 0xFE70), (0xFE72, 0xFE72), (0xFE74, 0xFE74), (0xFE76, 0xFE76), (0xFE78, 0xFE78),
    (0xFE7A, 0xFE7A), (0xFE7C, 0xFE7C), (0xFE7E, 0xFE7E)]

/-- The characters that break names when they are normalized at the start. -/
def unstableAtStart : Charset :=
  unstableInNames.union (ofRanges [(0xE33, 0xE33), (0xEB3, 0xEB3), (0xFF9E, 0xFF9F)])

/-- The signs that begin names in mathematics. -/
def mathNameStart : Charset :=
  ofChars (([0x2202, 0x2207, 0x221E, 0x1D6C1, 0x1D6DB, 0x1D6FB, 0x1D715, 0x1D735, 0x1D74F,
    0x1D76F, 0x1D789, 0x1D7A9, 0x1D7C3] : List Nat).map Char.ofNat)

/-- The signs that stand in names in mathematics. -/
def mathNameContinue : Charset :=
  mathNameStart.union
    (ofRanges [(0xB2, 0xB3), (0xB9, 0xB9), (0x2070, 0x2070), (0x2074, 0x207E), (0x2080, 0x208E)])

/-! ## Emoji -/

/-- The signs for skin tones. -/
def emojiModifier : Charset := interval (Char.ofNat 0x1F3FB) (Char.ofNat 0x1F3FF)

/-- The letters that make up flags. -/
def regionalIndicator : Charset := interval (Char.ofNat 0x1F1E6) (Char.ofNat 0x1F1FF)

/-- The characters that emoji are put together from. -/
def emojiComponent : Charset :=
  unions [regionalIndicator, emojiModifier,
    ofRanges [(0x23, 0x23), (0x2A, 0x2A), (0x30, 0x39), (0x200D, 0x200D), (0x20E3, 0x20E3),
      (0xFE0F, 0xFE0F), (0x1F9B0, 0x1F9B3), (0xE0020, 0xE007F)]]

/-! ## Punctuation and special characters -/

/-- The dashes. -/
def dash : Charset :=
  (ofCategories [.dash]).union (ofChars ['\u2053', '\u207b', '\u208b', '\u2212'])

/-- The hyphens. -/
def hyphen : Charset :=
  ofRanges [(0x2D, 0x2D), (0xAD, 0xAD), (0x58A, 0x58A), (0x1806, 0x1806), (0x2010, 0x2011),
    (0x2E17, 0x2E17), (0x30FB, 0x30FB), (0xFE63, 0xFE63), (0xFF0D, 0xFF0D), (0xFF65, 0xFF65)]

/-- The punctuation that ends sentences. -/
def sentenceTerminal : Charset := ofRanges Text.sentenceTerminalRanges

/-- The code points that will never be assigned: the last two of every plane, and some others. -/
def noncharacter : Charset :=
  ofRanges ((0xFDD0, 0xFDEF) ::
    (List.range 17).map fun plane => (plane * 0x10000 + 0xFFFE, plane * 0x10000 + 0xFFFF))

/-- The characters that choose a variant of the one before. -/
def variationSelector : Charset :=
  ofRanges [(0x180B, 0x180D), (0x180F, 0x180F), (0xFE00, 0xFE0F), (0xE0100, 0xE01EF)]

/-- The characters that are not shown where they are not supported, though their categories do not
say so. -/
def otherDefaultIgnorable : Charset :=
  ofRanges [(0x34F, 0x34F), (0x115F, 0x1160), (0x17B4, 0x17B5), (0x2065, 0x2065),
    (0x3164, 0x3164), (0xFFA0, 0xFFA0), (0xFFF0, 0xFFF8), (0xE0000, 0xE0000),
    (0xE0002, 0xE001F), (0xE0080, 0xE00FF), (0xE01F0, 0xE0FFF)]

/-- The characters that set the direction of text. -/
def bidiControl : Charset :=
  ofRanges [(0x61C, 0x61C), (0x200E, 0x200F), (0x202A, 0x202E), (0x2066, 0x2069)]

/-- The characters that should not be used. -/
def deprecated : Charset :=
  ofRanges [(0x149, 0x149), (0x673, 0x673), (0xF77, 0xF77), (0xF79, 0xF79), (0x17A3, 0x17A4),
    (0x206A, 0x206F), (0x2329, 0x232A), (0xE0001, 0xE0001)]

/-- The marks of Arabic that are put nearer to the letter than others. -/
def modifierCombiningMark : Charset :=
  ofRanges [(0x654, 0x655), (0x658, 0x658), (0x6DC, 0x6DC), (0x6E3, 0x6E3), (0x6E7, 0x6E8),
    (0x8CA, 0x8CB), (0x8CD, 0x8CF), (0x8D3, 0x8D3), (0x8F3, 0x8F3)]

/-! ## All of them -/

/-- The properties of letters and numbers. -/
def letterTraits : List NamedSet :=
  [⟨["White_Space", "WSpace", "space"], blank⟩,
   ⟨["Alphabetic", "Alpha"], alphabetic⟩,
   ⟨["Other_Alphabetic", "OAlpha"], otherAlphabetic⟩,
   ⟨["Ideographic", "Ideo"], ideographic⟩,
   ⟨["Unified_Ideograph", "UIdeo"], ofRanges Text.unifiedIdeographRanges⟩,
   ⟨["Radical"], ofRanges [(0x2E80, 0x2E99), (0x2E9B, 0x2EF3), (0x2F00, 0x2FD5)]⟩,
   ⟨["IDS_Unary_Operator", "IDSU"], interval '\u2ffe' '\u2fff'⟩,
   ⟨["IDS_Binary_Operator", "IDSB"],
     ofRanges [(0x2FF0, 0x2FF1), (0x2FF4, 0x2FFD), (0x31EF, 0x31EF)]⟩,
   ⟨["IDS_Trinary_Operator", "IDST"], interval '\u2ff2' '\u2ff3'⟩,
   ⟨["Math"], math⟩,
   ⟨["Other_Math", "OMath"], ofRanges Text.otherMathRanges⟩,
   ⟨["Hex_Digit", "Hex"], hexDigit⟩,
   ⟨["ASCII_Hex_Digit", "AHex"], asciiHexDigit⟩,
   ⟨["Logical_Order_Exception", "LOE"], logicalOrderException⟩]

/-- The properties that concern case. -/
def caseTraits : List NamedSet :=
  [⟨["Lowercase", "Lower"], lowercase⟩,
   ⟨["Other_Lowercase", "OLower"], ofRanges Text.otherLowercaseRanges⟩,
   ⟨["Uppercase", "Upper"], uppercase⟩,
   ⟨["Other_Uppercase", "OUpper"], ofRanges Text.otherUppercaseRanges⟩,
   ⟨["Cased"], unions [lowercase, uppercase, titlecase]⟩,
   ⟨["Case_Ignorable", "CI"], caseIgnorable⟩,
   ⟨["Changes_When_Casefolded", "CWCF"], changedByFolding⟩,
   ⟨["Changes_When_Lowercased", "CWL"], changedToLower⟩,
   ⟨["Changes_When_Uppercased", "CWU"], changedToUpper⟩,
   ⟨["Changes_When_Titlecased", "CWT"], changedToTitle⟩,
   ⟨["Changes_When_Casemapped", "CWCM"],
     unions [changedToLower, changedToUpper, changedToTitle]⟩,
   ⟨["Soft_Dotted", "SD"], ofRanges Text.softDottedRanges⟩]

/-- The properties that concern marks and graphemes. -/
def markTraits : List NamedSet :=
  [⟨["Grapheme_Extend", "Gr_Ext"], graphemeExtend⟩,
   ⟨["Other_Grapheme_Extend", "OGr_Ext"], otherGraphemeExtend⟩,
   ⟨["Grapheme_Base", "Gr_Base"], graphemeBase⟩,
   ⟨["Grapheme_Link", "Gr_Link"], ofRanges Text.graphemeLinkRanges⟩,
   ⟨["Diacritic", "Dia"], ofRanges Text.diacriticRanges⟩,
   ⟨["Extender", "Ext"], ofRanges Text.extenderRanges⟩,
   ⟨["Join_Control", "Join_C"], interval '\u200c' '\u200d'⟩,
   ⟨["Variation_Selector", "VS"], variationSelector⟩,
   ⟨["Prepended_Concatenation_Mark", "PCM"], prependedMark⟩,
   ⟨["Modifier_Combining_Mark", "MCM"], modifierCombiningMark⟩]

/-- The properties that concern names in programs and the syntax around them. -/
def nameTraits : List NamedSet :=
  [⟨["ID_Start", "IDS"], nameStart⟩,
   ⟨["ID_Continue", "IDC"], nameContinue⟩,
   ⟨["XID_Start", "XIDS"], nameStart.difference unstableAtStart⟩,
   ⟨["XID_Continue", "XIDC"], nameContinue.difference unstableInNames⟩,
   ⟨["Other_ID_Start", "OIDS"], otherNameStart⟩,
   ⟨["Other_ID_Continue", "OIDC"], otherNameContinue⟩,
   ⟨["ID_Compat_Math_Start"], mathNameStart⟩,
   ⟨["ID_Compat_Math_Continue"], mathNameContinue⟩,
   ⟨["Pattern_Syntax", "Pat_Syn"], patternSyntax⟩,
   ⟨["Pattern_White_Space", "Pat_WS"], patternBlank⟩]

/-- The properties that concern emoji. -/
def emojiTraits : List NamedSet :=
  [⟨["Emoji"], ofRanges Text.emojiRanges⟩,
   ⟨["Emoji_Component", "EComp"], emojiComponent⟩,
   ⟨["Emoji_Modifier", "EMod"], emojiModifier⟩,
   ⟨["Emoji_Modifier_Base", "EBase"], ofRanges Text.emojiModifierBaseRanges⟩,
   ⟨["Emoji_Presentation", "EPres"], ofRanges Text.emojiPresentationRanges⟩,
   ⟨["Extended_Pictographic", "ExtPict"], ofRanges Text.pictographicRanges⟩,
   ⟨["Regional_Indicator", "RI"], regionalIndicator⟩]

/-- The properties that concern punctuation and special characters. -/
def signTraits : List NamedSet :=
  [⟨["Dash"], dash⟩,
   ⟨["Hyphen"], hyphen⟩,
   ⟨["Quotation_Mark", "QMark"], ofRanges Text.quotationMarkRanges⟩,
   ⟨["Sentence_Terminal", "STerm"], sentenceTerminal⟩,
   ⟨["Terminal_Punctuation", "Term"],
     sentenceTerminal.union (ofRanges Text.phraseTerminalRanges)⟩,
   ⟨["Bidi_Control", "Bidi_C"], bidiControl⟩,
   ⟨["Bidi_Mirrored", "Bidi_M"], ofRanges Text.bidiMirroredRanges⟩,
   ⟨["Default_Ignorable_Code_Point", "DI"], ofRanges Text.defaultIgnorableRanges⟩,
   ⟨["Other_Default_Ignorable_Code_Point", "ODI"], otherDefaultIgnorable⟩,
   ⟨["Deprecated", "Dep"], deprecated⟩,
   ⟨["Noncharacter_Code_Point", "NChar"], noncharacter⟩]

/-- The properties that a character has or has not. -/
def traits : List NamedSet :=
  letterTraits ++ caseTraits ++ markTraits ++ nameTraits ++ emojiTraits ++ signTraits

end Phrasebook.Charset
