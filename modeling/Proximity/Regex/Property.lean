/-!
# Unicode properties in expressions

An expression names a Unicode class as `\pL`, `\p{Greek}` or `\p{sc=Greek}`. A name is
compared loosely: letters in either case, with blanks, `_` and `-` left out and an `is`
in front dropped (`\p{IsLetter}` is `\p{Letter}`).

A bare name is looked for first among the properties, which must then be binary
(`Alphabetic`, `White_Space`, ...); then among the general categories (and `Any`,
`Assigned`, `ASCII`); then among the scripts. `cf`, `sc` and `lc` are the general
categories, not the properties they also abbreviate. A name with a value is looked for
among the properties, and the value among those of the general category, the script and
script extensions, the age, and the grapheme, sentence and word breaks. A value with no
characters (`Katakana_Or_Hiragana`, a break's `Other`) is not found either.

The names are those of Unicode 16.0.
-/

namespace Proximity.Regex

/-- A Unicode class as an expression names it. -/
inductive PropertyQuery where
  | oneLetter (c : Char)
  | named (name : String)
  | namedValue (name value : String)
  deriving Repr

/-- Reads the text between the braces of `\p{...}`: a name, or a name and a value
separated by `!=`, `:` or `=`. -/
def PropertyQuery.ofBraces (s : String) : PropertyQuery :=
  match s.splitOn "!=" with
  | name :: rest@(_ :: _) => .namedValue name ("!=".intercalate rest)
  | _ =>
    let cs := s.toList
    let before := cs.takeWhile fun c => c != ':' && c != '='
    if before.length == cs.length then .named s
    else .namedValue (String.ofList before) (String.ofList (cs.drop (before.length + 1)))

/-- What looking a class up finds. -/
inductive Lookup where
  | found
  | noProperty
  | noValue
  deriving DecidableEq, Repr

/-- A name in the loose form names are compared in: ASCII only, in lower case, without
blanks, `_` and `-`, and without an `is` in front (but `isc` stays, the one name that
starts so). -/
def normalizeName (s : String) : String :=
  let cs := s.toList
  let prefixed := cs.length ≥ 2 && (cs.take 2).map Char.toLower == ['i', 's']
  let kept := (if prefixed then cs.drop 2 else cs).filter fun c =>
    c.toNat < 0x80 && c != ' ' && c != '_' && c != '-'
  let lowered := kept.map Char.toLower
  if prefixed && lowered == ['c'] then "isc" else String.ofList lowered

/-- The properties, each with its names, the long name first. -/
def propertyNames : List (List String) :=
  [["kAccountingNumeric", "cjkAccountingNumeric"], ["kOtherNumeric", "cjkOtherNumeric"],
   ["kPrimaryNumeric", "cjkPrimaryNumeric"], ["Numeric_Value", "nv"],
   ["Bidi_Mirroring_Glyph", "bmg"], ["Bidi_Paired_Bracket", "bpb"], ["Case_Folding", "cf"],
   ["kCompatibilityVariant", "cjkCompatibilityVariant"], ["Decomposition_Mapping", "dm"],
   ["Equivalent_Unified_Ideograph", "EqUIdeo"], ["FC_NFKC_Closure", "FC_NFKC"],
   ["Lowercase_Mapping", "lc"], ["NFKC_Casefold", "NFKC_CF"],
   ["NFKC_Simple_Casefold", "NFKC_SCF"], ["Simple_Case_Folding", "scf", "sfc"],
   ["Simple_Lowercase_Mapping", "slc"], ["Simple_Titlecase_Mapping", "stc"],
   ["Simple_Uppercase_Mapping", "suc"], ["Titlecase_Mapping", "tc"],
   ["Uppercase_Mapping", "uc"], ["kIICore", "cjkIICore"], ["kIRG_GSource", "cjkIRG_GSource"],
   ["kIRG_HSource", "cjkIRG_HSource"], ["kIRG_JSource", "cjkIRG_JSource"],
   ["kIRG_KPSource", "cjkIRG_KPSource"], ["kIRG_KSource", "cjkIRG_KSource"],
   ["kIRG_MSource", "cjkIRG_MSource"], ["kIRG_SSource", "cjkIRG_SSource"],
   ["kIRG_TSource", "cjkIRG_TSource"], ["kIRG_UKSource", "cjkIRG_UKSource"],
   ["kIRG_USource", "cjkIRG_USource"], ["kIRG_VSource", "cjkIRG_VSource"],
   ["kRSUnicode", "cjkRSUnicode", "Unicode_Radical_Stroke", "URS"],
   ["kUnihanCore2020", "cjkUnihanCore2020"], ["ISO_Comment", "isc"],
   ["Jamo_Short_Name", "JSN"], ["kEH_Cat"], ["kEH_Desc"], ["kEH_HG"], ["kEH_IFAO"],
   ["kEH_JSesh"], ["Name", "na"], ["Unicode_1_Name", "na1"], ["Name_Alias"],
   ["Script_Extensions", "scx"], ["Age", "age"], ["Block", "blk"], ["Script", "sc"],
   ["Bidi_Class", "bc"], ["Bidi_Paired_Bracket_Type", "bpt"],
   ["Canonical_Combining_Class", "ccc"], ["Decomposition_Type", "dt"],
   ["East_Asian_Width", "ea"], ["General_Category", "gc"], ["Grapheme_Cluster_Break", "GCB"],
   ["Hangul_Syllable_Type", "hst"], ["Indic_Conjunct_Break", "InCB"],
   ["Indic_Positional_Category", "InPC"], ["Indic_Syllabic_Category", "InSC"],
   ["Joining_Group", "jg"], ["Joining_Type", "jt"], ["Line_Break", "lb"],
   ["NFC_Quick_Check", "NFC_QC"], ["NFD_Quick_Check", "NFD_QC"],
   ["NFKC_Quick_Check", "NFKC_QC"], ["NFKD_Quick_Check", "NFKD_QC"], ["Numeric_Type", "nt"],
   ["Sentence_Break", "SB"], ["Vertical_Orientation", "vo"], ["Word_Break", "WB"],
   ["ASCII_Hex_Digit", "AHex"], ["Alphabetic", "Alpha"], ["Bidi_Control", "Bidi_C"],
   ["Bidi_Mirrored", "Bidi_M"], ["Cased"], ["Composition_Exclusion", "CE"],
   ["Case_Ignorable", "CI"], ["Full_Composition_Exclusion", "Comp_Ex"],
   ["Changes_When_Casefolded", "CWCF"], ["Changes_When_Casemapped", "CWCM"],
   ["Changes_When_NFKC_Casefolded", "CWKCF"], ["Changes_When_Lowercased", "CWL"],
   ["Changes_When_Titlecased", "CWT"], ["Changes_When_Uppercased", "CWU"], ["Dash"],
   ["Deprecated", "Dep"], ["Default_Ignorable_Code_Point", "DI"], ["Diacritic", "Dia"],
   ["Emoji_Modifier_Base", "EBase"], ["Emoji_Component", "EComp"],
   ["Emoji_Modifier", "EMod"], ["Emoji"], ["Emoji_Presentation", "EPres"],
   ["Extender", "Ext"], ["Extended_Pictographic", "ExtPict"], ["Grapheme_Base", "Gr_Base"],
   ["Grapheme_Extend", "Gr_Ext"], ["Grapheme_Link", "Gr_Link"], ["Hex_Digit", "Hex"],
   ["Hyphen"], ["ID_Compat_Math_Continue"], ["ID_Compat_Math_Start"],
   ["ID_Continue", "IDC"], ["Ideographic", "Ideo"], ["ID_Start", "IDS"],
   ["IDS_Binary_Operator", "IDSB"], ["IDS_Trinary_Operator", "IDST"],
   ["IDS_Unary_Operator", "IDSU"], ["Join_Control", "Join_C"], ["kEH_NoMirror"],
   ["kEH_NoRotate"], ["Logical_Order_Exception", "LOE"], ["Lowercase", "Lower"], ["Math"],
   ["Modifier_Combining_Mark", "MCM"], ["Noncharacter_Code_Point", "NChar"],
   ["Other_Alphabetic", "OAlpha"], ["Other_Default_Ignorable_Code_Point", "ODI"],
   ["Other_Grapheme_Extend", "OGr_Ext"], ["Other_ID_Continue", "OIDC"],
   ["Other_ID_Start", "OIDS"], ["Other_Lowercase", "OLower"], ["Other_Math", "OMath"],
   ["Other_Uppercase", "OUpper"], ["Pattern_Syntax", "Pat_Syn"],
   ["Pattern_White_Space", "Pat_WS"], ["Prepended_Concatenation_Mark", "PCM"],
   ["Quotation_Mark", "QMark"], ["Radical"], ["Regional_Indicator", "RI"],
   ["Soft_Dotted", "SD"], ["Sentence_Terminal", "STerm"], ["Terminal_Punctuation", "Term"],
   ["Unified_Ideograph", "UIdeo"], ["Uppercase", "Upper"], ["Variation_Selector", "VS"],
   ["White_Space", "WSpace", "space"], ["XID_Continue", "XIDC"], ["XID_Start", "XIDS"],
   ["Expands_On_NFC", "XO_NFC"], ["Expands_On_NFD", "XO_NFD"],
   ["Expands_On_NFKC", "XO_NFKC"], ["Expands_On_NFKD", "XO_NFKD"]]

/-- The binary properties a class may name. -/
def binaryProperties : List String :=
  ["ASCII_Hex_Digit", "Alphabetic", "Bidi_Control", "Bidi_Mirrored", "Case_Ignorable",
   "Cased", "Changes_When_Casefolded", "Changes_When_Casemapped", "Changes_When_Lowercased",
   "Changes_When_Titlecased", "Changes_When_Uppercased", "Dash",
   "Default_Ignorable_Code_Point", "Deprecated", "Diacritic", "Emoji", "Emoji_Component",
   "Emoji_Modifier", "Emoji_Modifier_Base", "Emoji_Presentation", "Extended_Pictographic",
   "Extender", "Grapheme_Base", "Grapheme_Extend", "Grapheme_Link", "Hex_Digit", "Hyphen",
   "IDS_Binary_Operator", "IDS_Trinary_Operator", "IDS_Unary_Operator",
   "ID_Compat_Math_Continue", "ID_Compat_Math_Start", "ID_Continue", "ID_Start",
   "Ideographic", "Join_Control", "Logical_Order_Exception", "Lowercase", "Math",
   "Modifier_Combining_Mark", "Noncharacter_Code_Point", "Other_Alphabetic",
   "Other_Default_Ignorable_Code_Point", "Other_Grapheme_Extend", "Other_ID_Continue",
   "Other_ID_Start", "Other_Lowercase", "Other_Math", "Other_Uppercase", "Pattern_Syntax",
   "Pattern_White_Space", "Prepended_Concatenation_Mark", "Quotation_Mark", "Radical",
   "Regional_Indicator", "Sentence_Terminal", "Soft_Dotted", "Terminal_Punctuation",
   "Unified_Ideograph", "Uppercase", "Variation_Selector", "White_Space", "XID_Continue",
   "XID_Start"]

/-- The general categories, each with its names, the long name first. -/
def generalCategories : List (List String) :=
  [["Other", "C"], ["Control", "Cc", "cntrl"], ["Format", "Cf"], ["Unassigned", "Cn"],
   ["Private_Use", "Co"], ["Surrogate", "Cs"], ["Letter", "L"], ["Cased_Letter", "LC"],
   ["Lowercase_Letter", "Ll"], ["Modifier_Letter", "Lm"], ["Other_Letter", "Lo"],
   ["Titlecase_Letter", "Lt"], ["Uppercase_Letter", "Lu"], ["Mark", "M", "Combining_Mark"],
   ["Spacing_Mark", "Mc"], ["Enclosing_Mark", "Me"], ["Nonspacing_Mark", "Mn"],
   ["Number", "N"], ["Decimal_Number", "Nd", "digit"], ["Letter_Number", "Nl"],
   ["Other_Number", "No"], ["Punctuation", "P", "punct"], ["Connector_Punctuation", "Pc"],
   ["Dash_Punctuation", "Pd"], ["Close_Punctuation", "Pe"], ["Final_Punctuation", "Pf"],
   ["Initial_Punctuation", "Pi"], ["Other_Punctuation", "Po"], ["Open_Punctuation", "Ps"],
   ["Symbol", "S"], ["Currency_Symbol", "Sc"], ["Modifier_Symbol", "Sk"],
   ["Math_Symbol", "Sm"], ["Other_Symbol", "So"], ["Separator", "Z"],
   ["Line_Separator", "Zl"], ["Paragraph_Separator", "Zp"], ["Space_Separator", "Zs"]]

/-- The scripts, each with its names, the long name first. -/
def scripts : List (List String) :=
  [["Adlam", "Adlm"], ["Caucasian_Albanian", "Aghb"], ["Ahom"], ["Arabic", "Arab"],
   ["Imperial_Aramaic", "Armi"], ["Armenian", "Armn"], ["Avestan", "Avst"],
   ["Balinese", "Bali"], ["Bamum", "Bamu"], ["Bassa_Vah", "Bass"], ["Batak", "Batk"],
   ["Bengali", "Beng"], ["Bhaiksuki", "Bhks"], ["Bopomofo", "Bopo"], ["Brahmi", "Brah"],
   ["Braille", "Brai"], ["Buginese", "Bugi"], ["Buhid", "Buhd"], ["Chakma", "Cakm"],
   ["Canadian_Aboriginal", "Cans"], ["Carian", "Cari"], ["Cham"], ["Cherokee", "Cher"],
   ["Chorasmian", "Chrs"], ["Coptic", "Copt", "Qaac"], ["Cypro_Minoan", "Cpmn"],
   ["Cypriot", "Cprt"], ["Cyrillic", "Cyrl"], ["Devanagari", "Deva"],
   ["Dives_Akuru", "Diak"], ["Dogra", "Dogr"], ["Deseret", "Dsrt"], ["Duployan", "Dupl"],
   ["Egyptian_Hieroglyphs", "Egyp"], ["Elbasan", "Elba"], ["Elymaic", "Elym"],
   ["Ethiopic", "Ethi"], ["Garay", "Gara"], ["Georgian", "Geor"], ["Glagolitic", "Glag"],
   ["Gunjala_Gondi", "Gong"], ["Masaram_Gondi", "Gonm"], ["Gothic", "Goth"],
   ["Grantha", "Gran"], ["Greek", "Grek"], ["Gujarati", "Gujr"], ["Gurung_Khema", "Gukh"],
   ["Gurmukhi", "Guru"], ["Hangul", "Hang"], ["Han", "Hani"], ["Hanunoo", "Hano"],
   ["Hatran", "Hatr"], ["Hebrew", "Hebr"], ["Hiragana", "Hira"],
   ["Anatolian_Hieroglyphs", "Hluw"], ["Pahawh_Hmong", "Hmng"],
   ["Nyiakeng_Puachue_Hmong", "Hmnp"], ["Katakana_Or_Hiragana", "Hrkt"],
   ["Old_Hungarian", "Hung"], ["Old_Italic", "Ital"], ["Javanese", "Java"],
   ["Kayah_Li", "Kali"], ["Katakana", "Kana"], ["Kawi"], ["Kharoshthi", "Khar"],
   ["Khmer", "Khmr"], ["Khojki", "Khoj"], ["Khitan_Small_Script", "Kits"],
   ["Kannada", "Knda"], ["Kirat_Rai", "Krai"], ["Kaithi", "Kthi"], ["Tai_Tham", "Lana"],
   ["Lao", "Laoo"], ["Latin", "Latn"], ["Lepcha", "Lepc"], ["Limbu", "Limb"],
   ["Linear_A", "Lina"], ["Linear_B", "Linb"], ["Lisu"], ["Lycian", "Lyci"],
   ["Lydian", "Lydi"], ["Mahajani", "Mahj"], ["Makasar", "Maka"], ["Mandaic", "Mand"],
   ["Manichaean", "Mani"], ["Marchen", "Marc"], ["Medefaidrin", "Medf"],
   ["Mende_Kikakui", "Mend"], ["Meroitic_Cursive", "Merc"],
   ["Meroitic_Hieroglyphs", "Mero"], ["Malayalam", "Mlym"], ["Modi"], ["Mongolian", "Mong"],
   ["Mro", "Mroo"], ["Meetei_Mayek", "Mtei"], ["Multani", "Mult"], ["Myanmar", "Mymr"],
   ["Nag_Mundari", "Nagm"], ["Nandinagari", "Nand"], ["Old_North_Arabian", "Narb"],
   ["Nabataean", "Nbat"], ["Newa"], ["Nko", "Nkoo"], ["Nushu", "Nshu"], ["Ogham", "Ogam"],
   ["Ol_Chiki", "Olck"], ["Ol_Onal", "Onao"], ["Old_Turkic", "Orkh"], ["Oriya", "Orya"],
   ["Osage", "Osge"], ["Osmanya", "Osma"], ["Old_Uyghur", "Ougr"], ["Palmyrene", "Palm"],
   ["Pau_Cin_Hau", "Pauc"], ["Old_Permic", "Perm"], ["Phags_Pa", "Phag"],
   ["Inscriptional_Pahlavi", "Phli"], ["Psalter_Pahlavi", "Phlp"], ["Phoenician", "Phnx"],
   ["Miao", "Plrd"], ["Inscriptional_Parthian", "Prti"], ["Rejang", "Rjng"],
   ["Hanifi_Rohingya", "Rohg"], ["Runic", "Runr"], ["Samaritan", "Samr"],
   ["Old_South_Arabian", "Sarb"], ["Saurashtra", "Saur"], ["SignWriting", "Sgnw"],
   ["Shavian", "Shaw"], ["Sharada", "Shrd"], ["Siddham", "Sidd"], ["Khudawadi", "Sind"],
   ["Sinhala", "Sinh"], ["Sogdian", "Sogd"], ["Old_Sogdian", "Sogo"],
   ["Sora_Sompeng", "Sora"], ["Soyombo", "Soyo"], ["Sundanese", "Sund"],
   ["Sunuwar", "Sunu"], ["Syloti_Nagri", "Sylo"], ["Syriac", "Syrc"], ["Tagbanwa", "Tagb"],
   ["Takri", "Takr"], ["Tai_Le", "Tale"], ["New_Tai_Lue", "Talu"], ["Tamil", "Taml"],
   ["Tangut", "Tang"], ["Tai_Viet", "Tavt"], ["Telugu", "Telu"], ["Tifinagh", "Tfng"],
   ["Tagalog", "Tglg"], ["Thaana", "Thaa"], ["Thai"], ["Tibetan", "Tibt"],
   ["Tirhuta", "Tirh"], ["Tangsa", "Tnsa"], ["Todhri", "Todr"], ["Toto"],
   ["Tulu_Tigalari", "Tutg"], ["Ugaritic", "Ugar"], ["Vai", "Vaii"], ["Vithkuqi", "Vith"],
   ["Warang_Citi", "Wara"], ["Wancho", "Wcho"], ["Old_Persian", "Xpeo"],
   ["Cuneiform", "Xsux"], ["Yezidi", "Yezi"], ["Yi", "Yiii"], ["Zanabazar_Square", "Zanb"],
   ["Inherited", "Zinh", "Qaai"], ["Common", "Zyyy"], ["Unknown", "Zzzz"]]

/-- The ages, each with its names, the long name first; a class of an age holds the
characters assigned by that version. -/
def ages : List (List String) :=
  [["V1_1", "1.1"], ["V2_0", "2.0"], ["V2_1", "2.1"], ["V3_0", "3.0"], ["V3_1", "3.1"],
   ["V3_2", "3.2"], ["V4_0", "4.0"], ["V4_1", "4.1"], ["V5_0", "5.0"], ["V5_1", "5.1"],
   ["V5_2", "5.2"], ["V6_0", "6.0"], ["V6_1", "6.1"], ["V6_2", "6.2"], ["V6_3", "6.3"],
   ["V7_0", "7.0"], ["V8_0", "8.0"], ["V9_0", "9.0"], ["V10_0", "10.0"], ["V11_0", "11.0"],
   ["V12_0", "12.0"], ["V12_1", "12.1"], ["V13_0", "13.0"], ["V14_0", "14.0"],
   ["V15_0", "15.0"], ["V15_1", "15.1"], ["V16_0", "16.0"], ["Unassigned", "NA"]]

/-- The grapheme cluster breaks, each with its names, the long name first. -/
def graphemeBreaks : List (List String) :=
  [["Control", "CN"], ["CR"], ["E_Base", "EB"], ["E_Base_GAZ", "EBG"], ["E_Modifier", "EM"],
   ["Extend", "EX"], ["Glue_After_Zwj", "GAZ"], ["L"], ["LF"], ["LV"], ["LVT"],
   ["Prepend", "PP"], ["Regional_Indicator", "RI"], ["SpacingMark", "SM"], ["T"], ["V"],
   ["Other", "XX"], ["ZWJ"]]

/-- The sentence breaks, each with its names, the long name first. -/
def sentenceBreaks : List (List String) :=
  [["ATerm", "AT"], ["Close", "CL"], ["CR"], ["Extend", "EX"], ["Format", "FO"],
   ["OLetter", "LE"], ["LF"], ["Lower", "LO"], ["Numeric", "NU"], ["SContinue", "SC"],
   ["Sep", "SE"], ["Sp", "SP"], ["STerm", "ST"], ["Upper", "UP"], ["Other", "XX"]]

/-- The word breaks, each with its names, the long name first. -/
def wordBreaks : List (List String) :=
  [["CR"], ["Double_Quote", "DQ"], ["E_Base", "EB"], ["E_Base_GAZ", "EBG"],
   ["E_Modifier", "EM"], ["ExtendNumLet", "EX"], ["Extend"], ["Format", "FO"],
   ["Glue_After_Zwj", "GAZ"], ["Hebrew_Letter", "HL"], ["Katakana", "KA"],
   ["ALetter", "LE"], ["LF"], ["MidNumLet", "MB"], ["MidLetter", "ML"], ["MidNum", "MN"],
   ["Newline", "NL"], ["Numeric", "NU"], ["Regional_Indicator", "RI"],
   ["Single_Quote", "SQ"], ["WSegSpace"], ["Other", "XX"], ["ZWJ"]]

/-- The long name of the entry a loose name names, in a table of names. -/
def canonicalIn (table : List (List String)) (norm : String) : Option String :=
  (table.find? fun names => names.any (normalizeName · == norm)).bind List.head?

/-- How a value with its long name is found: a value with no characters is not. -/
def foundUnless (empty : List String) : Option String → Lookup
  | some v => if empty.contains v then .noValue else .found
  | none => .noValue

/-- Looks a general category up, with `Any`, `Assigned` and `ASCII`. -/
def generalCategory (norm : String) : Option String :=
  if norm == "any" then some "Any"
  else if norm == "assigned" then some "Assigned"
  else if norm == "ascii" then some "ASCII"
  else canonicalIn generalCategories norm

/-- Looks a bare name up: a binary property, a general category or a script. -/
def lookupName (name : String) : Lookup :=
  let norm := normalizeName name
  let asProperty := if norm == "cf" || norm == "sc" || norm == "lc" then none
    else canonicalIn propertyNames norm
  match asProperty with
  | some canon => if binaryProperties.contains canon then .found else .noProperty
  | none =>
    if (generalCategory norm).isSome then .found
    else match canonicalIn scripts norm with
      | some s => foundUnless ["Katakana_Or_Hiragana"] (some s)
      | none => .noProperty

/-- Looks a name and a value up. -/
def lookupValue (name value : String) : Lookup :=
  let v := normalizeName value
  match canonicalIn propertyNames (normalizeName name) with
  | none => .noProperty
  | some "General_Category" => foundUnless [] (generalCategory v)
  | some "Script" => foundUnless ["Katakana_Or_Hiragana"] (canonicalIn scripts v)
  | some "Script_Extensions" => foundUnless ["Katakana_Or_Hiragana"] (canonicalIn scripts v)
  | some "Age" => foundUnless ["Unassigned"] (canonicalIn ages v)
  | some "Grapheme_Cluster_Break" => foundUnless ["Other"] (canonicalIn graphemeBreaks v)
  | some "Sentence_Break" => foundUnless ["Other"] (canonicalIn sentenceBreaks v)
  | some "Word_Break" => foundUnless ["Other"] (canonicalIn wordBreaks v)
  | some _ => .noValue

/-- Looks a class up. -/
def PropertyQuery.lookup : PropertyQuery → Lookup
  | .oneLetter c => lookupName (String.singleton c)
  | .named name => lookupName name
  | .namedValue name value => lookupValue name value

end Proximity.Regex
