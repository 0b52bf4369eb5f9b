/-!
# Faults of patterns
-/

namespace StepUp.Regex

/-- Why a text is not a pattern. -/
inductive Fault where
  | unclosedGroup
  | unopenedGroup
  | unclosedClass
  | lookAround
  | badGroupName
  | repeatedGroupName
  | badFlags
  | nothingToRepeat
  | badCount
  | badEscape
  | badHex
  | badClassItem
  | badRange
  | badWordBoundary
  | unknownProperty
  | notUnicode
  | tooDeep
  | tooLarge
deriving DecidableEq, Repr

/-- The fault in words. -/
def Fault.message : Fault → String
  | unclosedGroup => "unclosed group"
  | unopenedGroup => "unopened group"
  | unclosedClass => "unclosed character class"
  | lookAround => "look-around is not supported"
  | badGroupName => "invalid capture group name"
  | repeatedGroupName => "duplicate capture group name"
  | badFlags => "invalid flags"
  | nothingToRepeat => "repetition operator missing expression"
  | badCount => "invalid repetition count"
  | badEscape => "unrecognized escape sequence"
  | badHex => "invalid hexadecimal escape"
  | badClassItem => "invalid item in character class"
  | badRange => "invalid character class range"
  | badWordBoundary => "invalid word boundary assertion"
  | unknownProperty => "Unicode property not found"
  | notUnicode => "pattern can match invalid UTF-8 or needs Unicode"
  | tooDeep => "nesting limit exceeded"
  | tooLarge => "compiled pattern exceeds the size limit"

end StepUp.Regex
