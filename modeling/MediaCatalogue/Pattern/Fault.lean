/-! Why a text is no pattern. -/

namespace MediaCatalogue.Pattern

inductive Fault where
  | groupUnclosed
  | groupUnopened
  | groupName
  | groupNameDuplicate
  | lookAround
  | flagUnknown
  | flagDuplicate
  | flagsUnfinished
  | repetitionMissing
  | repetitionCount
  | escapeUnfinished
  | escapeUnknown
  | escapeHex
  | backreference
  | wordBoundary
  | classUnclosed
  | classEscape
  | classRange
  | propertyUnknown
  | nestedTooDeeply
  | unicodeDisabled
  | invalidUtf8
  | tooLarge
  deriving DecidableEq

def Fault.message : Fault → String
  | groupUnclosed => "unclosed group"
  | groupUnopened => "unopened group"
  | groupName => "invalid capture group name"
  | groupNameDuplicate => "duplicate capture group name"
  | lookAround => "look-around is not supported"
  | flagUnknown => "unrecognized flag"
  | flagDuplicate => "duplicate flag"
  | flagsUnfinished => "unfinished group flags"
  | repetitionMissing => "repetition operator missing expression"
  | repetitionCount => "invalid repetition count"
  | escapeUnfinished => "incomplete escape sequence"
  | escapeUnknown => "unrecognized escape sequence"
  | escapeHex => "invalid hexadecimal escape"
  | backreference => "backreferences are not supported"
  | wordBoundary => "invalid special word boundary"
  | classUnclosed => "unclosed character class"
  | classEscape => "invalid escape sequence in character class"
  | classRange => "invalid character class range"
  | propertyUnknown => "Unicode property not found"
  | nestedTooDeeply => "pattern is nested too deeply"
  | unicodeDisabled => "Unicode not allowed here"
  | invalidUtf8 => "pattern can match invalid UTF-8"
  | tooLarge => "compiled pattern exceeds the size limit"

end MediaCatalogue.Pattern
