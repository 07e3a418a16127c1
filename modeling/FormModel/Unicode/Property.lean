import FormModel.Unicode.Identifier
import FormModel.Unicode.Segmentation

/-!
The properties that a character has or has not, and their names.
-/

namespace FormModel.Unicode

/-- The hexadecimal digits of ASCII. -/
def asciiHexDigit : Table := .read ["30-39 41-46 61-66"]

/-- Hexadecimal digits, of full width too. -/
def hexDigit : Table := .read ["30-39 41-46 61-66 FF10-FF19 FF21-FF26 FF41-FF46"]

/-- The property Case_Ignorable: marks, and punctuation that may stand in a word. -/
def isCaseIgnorable (c : Char) : Bool :=
  inCategories ["Mn", "Me", "Cf", "Lm", "Sk"] c || [.midLetter, .midBoth, .singleQuote].contains (wordClass c)

/-- A property that a character has or has not. -/
inductive Property where
  | alphabetic
  | asciiHexDigit
  | bidiControl
  | bidiMirrored
  | caseIgnorable
  | cased
  | changesWhenCasefolded
  | changesWhenCasemapped
  | changesWhenLowercased
  | changesWhenTitlecased
  | changesWhenUppercased
  | dash
  | defaultIgnorableCodePoint
  | deprecated
  | diacritic
  | emoji
  | emojiComponent
  | emojiModifier
  | emojiModifierBase
  | emojiPresentation
  | extendedPictographic
  | extender
  | graphemeBase
  | graphemeExtend
  | graphemeLink
  | hexDigit
  | hyphen
  | idCompatMathContinue
  | idCompatMathStart
  | idContinue
  | idStart
  | ideographic
  | idsBinaryOperator
  | idsTrinaryOperator
  | idsUnaryOperator
  | joinControl
  | logicalOrderException
  | lowercase
  | math
  | modifierCombiningMark
  | noncharacterCodePoint
  | otherAlphabetic
  | otherDefaultIgnorableCodePoint
  | otherGraphemeExtend
  | otherIdContinue
  | otherIdStart
  | otherLowercase
  | otherMath
  | otherUppercase
  | patternSyntax
  | patternWhiteSpace
  | prependedConcatenationMark
  | quotationMark
  | radical
  | regionalIndicator
  | sentenceTerminal
  | softDotted
  | terminalPunctuation
  | unifiedIdeograph
  | uppercase
  | variationSelector
  | whiteSpace
  | xidContinue
  | xidStart
  deriving DecidableEq, Repr

/-- Whether a character has a property. -/
def Property.holds (c : Char) : Property → Bool
  | .alphabetic => isAlphabetic c
  | .asciiHexDigit => Unicode.asciiHexDigit.contains c
  | .bidiControl => Unicode.bidiControl.contains c
  | .bidiMirrored => Unicode.bidiMirrored.contains c
  | .caseIgnorable => isCaseIgnorable c
  | .cased => isCased c
  | .changesWhenCasefolded => Unicode.changesWhenCasefolded c
  | .changesWhenCasemapped => Unicode.changesWhenCasemapped c
  | .changesWhenLowercased => Unicode.changesWhenLowercased c
  | .changesWhenTitlecased => Unicode.changesWhenTitlecased c
  | .changesWhenUppercased => Unicode.changesWhenUppercased c
  | .dash => Unicode.dash.contains c
  | .defaultIgnorableCodePoint => isDefaultIgnorable c
  | .deprecated => Unicode.deprecated.contains c
  | .diacritic => Unicode.diacritic.contains c
  | .emoji => Unicode.emoji.contains c
  | .emojiComponent => Unicode.emojiComponent.contains c
  | .emojiModifier => Unicode.emojiModifier.contains c
  | .emojiModifierBase => Unicode.emojiModifierBase.contains c
  | .emojiPresentation => Unicode.emojiPresentation.contains c
  | .extendedPictographic => Unicode.extendedPictographic.contains c
  | .extender => Unicode.extender.contains c
  | .graphemeBase => isGraphemeBase c
  | .graphemeExtend => isGraphemeExtend c
  | .graphemeLink => Unicode.graphemeLink.contains c
  | .hexDigit => Unicode.hexDigit.contains c
  | .hyphen => Unicode.hyphen.contains c
  | .idCompatMathContinue => Unicode.mathIdContinue.contains c
  | .idCompatMathStart => Unicode.mathIdStart.contains c
  | .idContinue => isIdContinue c
  | .idStart => isIdStart c
  | .ideographic => Unicode.ideographic.contains c
  | .idsBinaryOperator => Unicode.binaryDescription.contains c
  | .idsTrinaryOperator => Unicode.trinaryDescription.contains c
  | .idsUnaryOperator => Unicode.unaryDescription.contains c
  | .joinControl => Unicode.joinControl.contains c
  | .logicalOrderException => Unicode.logicalOrderException.contains c
  | .lowercase => isLowercase c
  | .math => isMath c
  | .modifierCombiningMark => Unicode.modifierCombiningMark.contains c
  | .noncharacterCodePoint => isNoncharacter c
  | .otherAlphabetic => Unicode.otherAlphabetic.contains c
  | .otherDefaultIgnorableCodePoint => Unicode.otherDefaultIgnorable.contains c
  | .otherGraphemeExtend => Unicode.otherGraphemeExtend.contains c
  | .otherIdContinue => Unicode.otherIdContinue.contains c
  | .otherIdStart => Unicode.otherIdStart.contains c
  | .otherLowercase => Unicode.otherLowercase.contains c
  | .otherMath => Unicode.otherMath.contains c
  | .otherUppercase => Unicode.otherUppercase.contains c
  | .patternSyntax => Unicode.patternSyntax.contains c
  | .patternWhiteSpace => Unicode.patternBlank.contains c
  | .prependedConcatenationMark => Unicode.prependedConcatenationMark.contains c
  | .quotationMark => Unicode.quotationMark.contains c
  | .radical => Unicode.radical.contains c
  | .regionalIndicator => Unicode.regionalIndicator.contains c
  | .sentenceTerminal => Unicode.sentenceTerminal.contains c
  | .softDotted => Unicode.softDotted.contains c
  | .terminalPunctuation => Unicode.terminalPunctuation.contains c
  | .unifiedIdeograph => Unicode.unifiedIdeograph.contains c
  | .uppercase => isUppercase c
  | .variationSelector => Unicode.variationSelector.contains c
  | .whiteSpace => isBlank c
  | .xidContinue => isXidContinue c
  | .xidStart => isXidStart c

/-- The names of the properties, in lower case without blanks. -/
def propertyNames : List (String × Property) := [
  ("alphabetic", .alphabetic), ("alpha", .alphabetic), ("asciihexdigit", .asciiHexDigit),
  ("ahex", .asciiHexDigit), ("bidicontrol", .bidiControl), ("bidic", .bidiControl),
  ("bidimirrored", .bidiMirrored), ("bidim", .bidiMirrored), ("caseignorable", .caseIgnorable),
  ("ci", .caseIgnorable), ("cased", .cased), ("changeswhencasefolded", .changesWhenCasefolded),
  ("cwcf", .changesWhenCasefolded), ("changeswhencasemapped", .changesWhenCasemapped),
  ("cwcm", .changesWhenCasemapped), ("changeswhenlowercased", .changesWhenLowercased),
  ("cwl", .changesWhenLowercased), ("changeswhentitlecased", .changesWhenTitlecased),
  ("cwt", .changesWhenTitlecased), ("changeswhenuppercased", .changesWhenUppercased),
  ("cwu", .changesWhenUppercased), ("dash", .dash),
  ("defaultignorablecodepoint", .defaultIgnorableCodePoint), ("di", .defaultIgnorableCodePoint),
  ("deprecated", .deprecated), ("dep", .deprecated), ("diacritic", .diacritic), ("dia", .diacritic),
  ("emoji", .emoji), ("emojicomponent", .emojiComponent), ("ecomp", .emojiComponent),
  ("emojimodifier", .emojiModifier), ("emod", .emojiModifier),
  ("emojimodifierbase", .emojiModifierBase), ("ebase", .emojiModifierBase),
  ("emojipresentation", .emojiPresentation), ("epres", .emojiPresentation),
  ("extendedpictographic", .extendedPictographic), ("extpict", .extendedPictographic),
  ("extender", .extender), ("ext", .extender), ("graphemebase", .graphemeBase),
  ("grbase", .graphemeBase), ("graphemeextend", .graphemeExtend), ("grext", .graphemeExtend),
  ("graphemelink", .graphemeLink), ("grlink", .graphemeLink), ("hexdigit", .hexDigit),
  ("hex", .hexDigit), ("hyphen", .hyphen), ("idcompatmathcontinue", .idCompatMathContinue),
  ("idcompatmathstart", .idCompatMathStart), ("idcontinue", .idContinue), ("idc", .idContinue),
  ("idstart", .idStart), ("ids", .idStart), ("ideographic", .ideographic), ("ideo", .ideographic),
  ("idsbinaryoperator", .idsBinaryOperator), ("idsb", .idsBinaryOperator),
  ("idstrinaryoperator", .idsTrinaryOperator), ("idst", .idsTrinaryOperator),
  ("idsunaryoperator", .idsUnaryOperator), ("idsu", .idsUnaryOperator), ("joincontrol", .joinControl),
  ("joinc", .joinControl), ("logicalorderexception", .logicalOrderException),
  ("loe", .logicalOrderException), ("lowercase", .lowercase), ("lower", .lowercase), ("math", .math),
  ("modifiercombiningmark", .modifierCombiningMark), ("mcm", .modifierCombiningMark),
  ("noncharactercodepoint", .noncharacterCodePoint), ("nchar", .noncharacterCodePoint),
  ("otheralphabetic", .otherAlphabetic), ("oalpha", .otherAlphabetic),
  ("otherdefaultignorablecodepoint", .otherDefaultIgnorableCodePoint),
  ("odi", .otherDefaultIgnorableCodePoint), ("othergraphemeextend", .otherGraphemeExtend),
  ("ogrext", .otherGraphemeExtend), ("otheridcontinue", .otherIdContinue), ("oidc", .otherIdContinue),
  ("otheridstart", .otherIdStart), ("oids", .otherIdStart), ("otherlowercase", .otherLowercase),
  ("olower", .otherLowercase), ("othermath", .otherMath), ("omath", .otherMath),
  ("otheruppercase", .otherUppercase), ("oupper", .otherUppercase), ("patternsyntax", .patternSyntax),
  ("patsyn", .patternSyntax), ("patternwhitespace", .patternWhiteSpace), ("patws", .patternWhiteSpace),
  ("prependedconcatenationmark", .prependedConcatenationMark), ("pcm", .prependedConcatenationMark),
  ("quotationmark", .quotationMark), ("qmark", .quotationMark), ("radical", .radical),
  ("regionalindicator", .regionalIndicator), ("ri", .regionalIndicator),
  ("sentenceterminal", .sentenceTerminal), ("sterm", .sentenceTerminal), ("softdotted", .softDotted),
  ("sd", .softDotted), ("terminalpunctuation", .terminalPunctuation), ("term", .terminalPunctuation),
  ("unifiedideograph", .unifiedIdeograph), ("uideo", .unifiedIdeograph), ("uppercase", .uppercase),
  ("upper", .uppercase), ("variationselector", .variationSelector), ("vs", .variationSelector),
  ("whitespace", .whiteSpace), ("wspace", .whiteSpace), ("space", .whiteSpace),
  ("xidcontinue", .xidContinue), ("xidc", .xidContinue), ("xidstart", .xidStart), ("xids", .xidStart)]

end FormModel.Unicode
