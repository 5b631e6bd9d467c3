import Phrasebook.Charset.Origin
import Phrasebook.Charset.Trait

/-!
# Sets by their part in segmentation

Text is cut into graphemes, words and sentences by classes of characters. `graphemeClasses`,
`wordClasses` and `sentenceClasses` list these classes with their names.
-/

set_option autoImplicit false

namespace Phrasebook.Charset

/-! ## Classes that several cuts share -/

/-- The marks and the signs for skin tones. -/
def attached : Charset := unions [graphemeExtend, emojiModifier]

/-- The joiner. -/
def joiner : Charset := single '\u200d'

/-- The marks that take space. -/
def spacingMark : Charset := ofCategories [.spacingMark]

/-- The sets of a carriage return and of a line feed. -/
def returnClasses : List NamedSet := [⟨["CR"], single '\r'⟩, ⟨["LF"], single '\n'⟩]

/-- The sets of the joiner and of the letters that make up flags. -/
def joinerClasses : List NamedSet :=
  [⟨["ZWJ"], joiner⟩, ⟨["RI", "Regional_Indicator"], regionalIndicator⟩]

/-! ## Graphemes -/

/-- The characters that begin a grapheme and join it to what follows. -/
def graphemePrepend : Charset :=
  prependedMark.union (ofRanges [(0xD4E, 0xD4E), (0x111C2, 0x111C3), (0x113D1, 0x113D1),
    (0x1193F, 0x1193F), (0x11941, 0x11941), (0x11A84, 0x11A89), (0x11D46, 0x11D46),
    (0x11F02, 0x11F02)])

/-- The characters that are a grapheme by themselves, line ends apart. -/
def graphemeControl : Charset :=
  ((ofCategories [.lineSeparator, .paragraphSeparator, .control, .format]).union
    (unassigned.inter (ofRanges Text.defaultIgnorableRanges))).difference
    (unions [attached, graphemePrepend, joiner, ofChars ['\r', '\n', '\u200c']])

/-- The marks that take space and yet begin a grapheme. -/
def detachedMark : Charset :=
  ofRanges [(0x102B, 0x102C), (0x1038, 0x1038), (0x1062, 0x1064), (0x1067, 0x106D),
    (0x1083, 0x1083), (0x1087, 0x108C), (0x108F, 0x108F), (0x109A, 0x109C), (0x1A61, 0x1A61),
    (0x1A63, 0x1A64), (0xAA7B, 0xAA7B), (0xAA7D, 0xAA7D), (0x11720, 0x11721)]

/-- The marks that take space and go on a grapheme. -/
def graphemeSpacingMark : Charset :=
  (spacingMark.difference (detachedMark.union attached)).union (ofChars ['\u0e33', '\u0eb3'])

/-- The syllables of Hangul without a final consonant: every twenty-eighth one. -/
def openSyllable : Charset :=
  ofChars ((List.range 399).map fun k => Char.ofNat (0xAC00 + 28 * k))

/-- The classes for graphemes. -/
def graphemeClasses : List NamedSet :=
  returnClasses ++ joinerClasses ++
  [⟨["CN", "Control"], graphemeControl⟩,
   ⟨["EX", "Extend"], attached⟩,
   ⟨["PP", "Prepend"], graphemePrepend⟩,
   ⟨["SM", "SpacingMark"], graphemeSpacingMark⟩,
   ⟨["L"], ofRanges [(0x1100, 0x115F), (0xA960, 0xA97C)]⟩,
   ⟨["V"], ofRanges [(0x1160, 0x11A7), (0xD7B0, 0xD7C6), (0x16D63, 0x16D63),
     (0x16D67, 0x16D6A)]⟩,
   ⟨["T"], ofRanges [(0x11A8, 0x11FF), (0xD7CB, 0xD7FB)]⟩,
   ⟨["LV"], openSyllable⟩,
   ⟨["LVT"], (interval '\uac00' '\ud7a3').difference openSyllable⟩]

/-! ## Words -/

/-- The format characters that belong to a number. -/
def numberFormat : Charset := prependedMark.difference (single '\u070f')

/-- The letters of Hebrew. -/
def hebrewLetter : Charset :=
  ofRanges [(0x5D0, 0x5EA), (0x5EF, 0x5F2), (0xFB1D, 0xFB1D), (0xFB1F, 0xFB28),
    (0xFB2A, 0xFB36), (0xFB38, 0xFB3C), (0xFB3E, 0xFB3E), (0xFB40, 0xFB41), (0xFB43, 0xFB44),
    (0xFB46, 0xFB4F)]

/-- The characters of Katakana that make up words. -/
def katakana : Charset :=
  ofRanges [(0x3031, 0x3035), (0x309B, 0x309C), (0x30A0, 0x30FA), (0x30FC, 0x30FF),
    (0x31F0, 0x31FF), (0x32D0, 0x32FE), (0x3300, 0x3357), (0xFF66, 0xFF9D), (0x1AFF0, 0x1AFF3),
    (0x1AFF5, 0x1AFFB), (0x1AFFD, 0x1AFFE), (0x1B000, 0x1B000), (0x1B120, 0x1B122),
    (0x1B155, 0x1B155), (0x1B164, 0x1B167)]

/-- The letters of scripts that are written without spaces between words. -/
def unspacedLetter : Charset :=
  ofRanges [(0xE01, 0xE30), (0xE32, 0xE33), (0xE40, 0xE46), (0xE81, 0xE82), (0xE84, 0xE84),
    (0xE86, 0xE8A), (0xE8C, 0xEA3), (0xEA5, 0xEA5), (0xEA7, 0xEB0), (0xEB2, 0xEB3),
    (0xEBD, 0xEBD), (0xEC0, 0xEC4), (0xEC6, 0xEC6), (0xEDC, 0xEDF), (0x1000, 0x102A),
    (0x103F, 0x103F), (0x1050, 0x1055), (0x105A, 0x105D), (0x1061, 0x1061), (0x1065, 0x1066),
    (0x106E, 0x1070), (0x1075, 0x1081), (0x108E, 0x108E), (0x1780, 0x17B3), (0x17D7, 0x17D7),
    (0x17DC, 0x17DC), (0x1950, 0x196D), (0x1970, 0x1974), (0x1980, 0x19AB), (0x19B0, 0x19C9),
    (0x1A20, 0x1A54), (0x1AA7, 0x1AA7), (0xA9E0, 0xA9E4), (0xA9E6, 0xA9EF), (0xA9FA, 0xA9FE),
    (0xAA60, 0xAA76), (0xAA7A, 0xAA7A), (0xAA7E, 0xAAAF), (0xAAB1, 0xAAB1), (0xAAB5, 0xAAB6),
    (0xAAB9, 0xAABD), (0xAAC0, 0xAAC0), (0xAAC2, 0xAAC2), (0xAADB, 0xAADD), (0x11700, 0x1171A),
    (0x11740, 0x11746)]

/-- The signs that count as letters of words. -/
def letterSign : Charset :=
  ofRanges [(0x2C2, 0x2C5), (0x2D2, 0x2D7), (0x2DE, 0x2DF), (0x2E5, 0x2EB), (0x2ED, 0x2ED),
    (0x2EF, 0x2FF), (0x55A, 0x55C), (0x55E, 0x55E), (0x58A, 0x58A), (0x5F3, 0x5F3),
    (0x70F, 0x70F), (0xA708, 0xA716), (0xA720, 0xA721), (0xA789, 0xA78A), (0xAB5B, 0xAB5B)]

/-- The marks that words may hold. -/
def wordExtend : Charset := unions [attached, spacingMark]

/-- The characters of Hiragana. -/
def hiragana : Charset := unions ((Text.Script.find? "hira".toList).toList.map ofScript)

/-- The letters of words, Hebrew and Katakana apart. -/
def wordLetter : Charset :=
  (alphabetic.difference
    (unions [ideographic, katakana, hebrewLetter, unspacedLetter, hiragana, wordExtend])).union
      letterSign

/-- The format characters that belong to any word. -/
def wordFormat : Charset :=
  (ofCategories [.format]).difference
    (unions [prependedMark, ofRanges [(0x200B, 0x200D), (0xE0020, 0xE007F)]])

/-- The classes for words. -/
def wordClasses : List NamedSet :=
  returnClasses ++ joinerClasses ++
  [⟨["NL", "Newline"], ofRanges [(0xB, 0xC), (0x85, 0x85), (0x2028, 0x2029)]⟩,
   ⟨["DQ", "Double_Quote"], single '"'⟩,
   ⟨["SQ", "Single_Quote"], single '\''⟩,
   ⟨["HL", "Hebrew_Letter"], hebrewLetter⟩,
   ⟨["KA", "Katakana"], katakana⟩,
   ⟨["LE", "ALetter"], wordLetter⟩,
   ⟨["Extend"], wordExtend⟩,
   ⟨["FO", "Format"], wordFormat⟩,
   ⟨["NU", "Numeric"], unions [digit, single '\u066b', numberFormat]⟩,
   ⟨["MB", "MidNumLet"],
     ofRanges [(0x2E, 0x2E), (0x2018, 0x2019), (0x2024, 0x2024), (0xFE52, 0xFE52),
       (0xFF07, 0xFF07), (0xFF0E, 0xFF0E)]⟩,
   ⟨["ML", "MidLetter"],
     ofRanges [(0x3A, 0x3A), (0xB7, 0xB7), (0x387, 0x387), (0x55F, 0x55F), (0x5F4, 0x5F4),
       (0x2027, 0x2027), (0xFE13, 0xFE13), (0xFE55, 0xFE55), (0xFF1A, 0xFF1A)]⟩,
   ⟨["MN", "MidNum"],
     ofRanges [(0x2C, 0x2C), (0x3B, 0x3B), (0x37E, 0x37E), (0x589, 0x589), (0x60C, 0x60D),
       (0x66C, 0x66C), (0x7F8, 0x7F8), (0x2044, 0x2044), (0xFE50, 0xFE50), (0xFE54, 0xFE54),
       (0xFF0C, 0xFF0C), (0xFF1B, 0xFF1B)]⟩,
   ⟨["EX", "ExtendNumLet"],
     ofRanges [(0x5F, 0x5F), (0x202F, 0x202F), (0x203F, 0x2040), (0x2054, 0x2054),
       (0xFE33, 0xFE34), (0xFE4D, 0xFE4F), (0xFF3F, 0xFF3F)]⟩,
   ⟨["WSegSpace"],
     ofRanges [(0x20, 0x20), (0x1680, 0x1680), (0x2000, 0x2006), (0x2008, 0x200A),
       (0x205F, 0x205F), (0x3000, 0x3000)]⟩]

/-! ## Sentences -/

/-- The characters that end paragraphs. -/
def paragraphEnd : Charset := ofChars ['\u0085', '\u2028', '\u2029']

/-- The marks that sentences may hold. -/
def sentenceExtend : Charset := unions [graphemeExtend, spacingMark, joiner]

/-- The small letters of sentences. Georgian does not begin sentences with capitals. -/
def sentenceLower : Charset :=
  lowercase.difference (graphemeExtend.union (ofRanges [(0x10D0, 0x10FA), (0x10FD, 0x10FF)]))

/-- The capital letters of sentences. -/
def sentenceUpper : Charset :=
  (uppercase.union titlecase).difference (ofRanges [(0x1C90, 0x1CBA), (0x1CBD, 0x1CBF)])

/-- The characters of numbers in sentences. -/
def sentenceNumeric : Charset :=
  unions [digit, numberFormat, ofChars ['\u066b', '\u066c', '\u19da']]

/-- The full stops, which may end sentences. -/
def fullStop : Charset := ofChars ['.', '\u2024', '\ufe52', '\uff0e']

/-- The brackets and quotation marks. -/
def closing : Charset :=
  (unions [ofCategories [.opening, .closing, .initialQuote, .finalQuote],
    ofRanges [(0x22, 0x22), (0x27, 0x27), (0x275B, 0x2760), (0x2E00, 0x2E0D),
      (0x1F676, 0x1F678)]]).difference sentenceTerminal

/-- The classes for sentences. -/
def sentenceClasses : List NamedSet :=
  returnClasses ++
  [⟨["SE", "Sep"], paragraphEnd⟩,
   ⟨["EX", "Extend"], sentenceExtend⟩,
   ⟨["FO", "Format"],
     (ofCategories [.format]).difference
       (unions [numberFormat, ofRanges [(0x200C, 0x200D), (0xE0020, 0xE007F)]])⟩,
   ⟨["SP", "Sp"], blank.difference (paragraphEnd.union (ofChars ['\r', '\n']))⟩,
   ⟨["LO", "Lower"], sentenceLower⟩,
   ⟨["UP", "Upper"], sentenceUpper⟩,
   ⟨["LE", "OLetter"],
     (alphabetic.difference (unions [sentenceLower, sentenceUpper, sentenceExtend])).union
       (single '\u05f3')⟩,
   ⟨["NU", "Numeric"], sentenceNumeric⟩,
   ⟨["AT", "ATerm"], fullStop⟩,
   ⟨["ST", "STerm"], sentenceTerminal.difference fullStop⟩,
   ⟨["CL", "Close"], closing⟩,
   ⟨["SC", "SContinue"],
     ofRanges [(0x2C, 0x2D), (0x3A, 0x3B), (0x37E, 0x37E), (0x55D, 0x55D), (0x60C, 0x60D),
       (0x7F8, 0x7F8), (0x1802, 0x1802), (0x1808, 0x1808), (0x2013, 0x2014), (0x3001, 0x3001),
       (0xFE10, 0xFE11), (0xFE13, 0xFE14), (0xFE31, 0xFE32), (0xFE50, 0xFE51),
       (0xFE54, 0xFE55), (0xFE58, 0xFE58), (0xFE63, 0xFE63), (0xFF0C, 0xFF0D),
       (0xFF1A, 0xFF1B), (0xFF64, 0xFF64)]⟩]

end Phrasebook.Charset
