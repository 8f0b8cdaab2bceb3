import Chip8.Text.Annotated

/-!
# Mistakes in patterns

A pattern that cannot be read is shown with marks under the characters that are to
blame, and with the reason below.

## Main definitions

* `Pattern.Cause`, `Pattern.Mistake` — why a pattern cannot be used, and where.
* `Pattern.Mistake.text` — the text of a mistake.
-/

namespace Chip8.Pattern

/-- Why a pattern cannot be used. -/
inductive Cause where
  | classEscapeInvalid
  | classRangeInvalid
  | classRangeLiteral
  | classUnclosed
  | decimalInvalid
  | hexEmpty
  | hexInvalid
  | hexInvalidDigit
  | escapeUnfinished
  | escapeUnrecognized
  | flagDanglingNegation
  | flagDuplicate
  | flagRepeatedNegation
  | flagUnfinished
  | flagUnrecognized
  | groupNameDuplicate
  | groupNameEmpty
  | groupNameInvalid
  | groupNameUnfinished
  | groupUnclosed
  | groupUnopened
  | countInvalid
  | countEmpty
  | countUnclosed
  | repetitionMissing
  | wordEdgeUnclosed
  | wordEdgeUnrecognized
  | wordEdgeUnfinished
  | propertyInvalid
  | backreference
  | lookAround
  | nestedTooDeep
  /-- A character beyond the basic Latin ones where bytes are matched. -/
  | notByte
  /-- Bytes are matched that need not be text. -/
  | notText
  | propertyUnknown
  | propertyValueUnknown
  | namedClassUnavailable
  | caseUnavailable
  deriving DecidableEq

/-- The text of a cause. -/
def Cause.message : Cause → String
  | classEscapeInvalid => "invalid escape sequence found in character class"
  | classRangeInvalid => "invalid character class range, the start must be <= the end"
  | classRangeLiteral => "invalid range boundary, must be a literal"
  | classUnclosed => "unclosed character class"
  | decimalInvalid => "decimal literal invalid"
  | hexEmpty => "hexadecimal literal empty"
  | hexInvalid => "hexadecimal literal is not a Unicode scalar value"
  | hexInvalidDigit => "invalid hexadecimal digit"
  | escapeUnfinished => "incomplete escape sequence, reached end of pattern prematurely"
  | escapeUnrecognized => "unrecognized escape sequence"
  | flagDanglingNegation => "dangling flag negation operator"
  | flagDuplicate => "duplicate flag"
  | flagRepeatedNegation => "flag negation operator repeated"
  | flagUnfinished => "expected flag but got end of regex"
  | flagUnrecognized => "unrecognized flag"
  | groupNameDuplicate => "duplicate capture group name"
  | groupNameEmpty => "empty capture group name"
  | groupNameInvalid => "invalid capture group character"
  | groupNameUnfinished => "unclosed capture group name"
  | groupUnclosed => "unclosed group"
  | groupUnopened => "unopened group"
  | countInvalid => "invalid repetition count range, the start must be <= the end"
  | countEmpty => "repetition quantifier expects a valid decimal"
  | countUnclosed => "unclosed counted repetition"
  | repetitionMissing => "repetition operator missing expression"
  | wordEdgeUnclosed =>
    "special word boundary assertion is either unclosed or contains an invalid character"
  | wordEdgeUnrecognized =>
    "unrecognized special word boundary assertion, valid choices are: "
      ++ "start, end, start-half or end-half"
  | wordEdgeUnfinished =>
    "found either the beginning of a special word boundary or a bounded repetition on a "
      ++ "\\b with an opening brace, but no closing brace"
  | propertyInvalid => "invalid Unicode character class"
  | backreference => "backreferences are not supported"
  | lookAround => "look-around, including look-ahead and look-behind, is not supported"
  | nestedTooDeep => "exceed the maximum number of nested parentheses/brackets (250)"
  | notByte => "Unicode not allowed here"
  | notText => "pattern can match invalid UTF-8"
  | propertyUnknown => "Unicode property not found"
  | propertyValueUnknown => "Unicode property value not found"
  | namedClassUnavailable =>
    "Unicode-aware Perl class not found (make sure the unicode-perl feature is enabled)"
  | caseUnavailable =>
    "Unicode-aware case insensitivity matching is not available "
      ++ "(make sure the unicode-case feature is enabled)"

/-- Why a pattern cannot be used, and where. -/
inductive Mistake where
  /-- This piece is to blame; some causes blame another, too. -/
  | misread (cause : Cause) (span : Span) (other : Option Span)
  /-- The pattern is written well but asks for words of all scripts. -/
  | unbuildable
  /-- The pattern is written well but takes up too much. -/
  | tooLarge
  deriving DecidableEq

namespace Mistake

/-- A mistake with just this piece to blame. -/
def blame (cause : Cause) (span : Span) : Mistake :=
  .misread cause span none

/-- The pieces to blame, from left to right. -/
def spans (span : Span) : Option Span → List Span
  | none => [span]
  | some other => if other.isBefore span then [other, span] else [span, other]

/-- The most bytes that a pattern may take up. -/
def sizeLimit : Nat := 10 * 1024 * 1024

/-- The text of a mistake in a pattern. -/
def text (pattern : String) : Mistake → String
  | .unbuildable => "error building NFA"
  | .tooLarge => "Compiled regex exceeds size limit of " ++ Nat.repr sizeLimit ++ " bytes."
  | .misread cause span other =>
    "\n".intercalate ("regex parse error:" :: Annotated.lines pattern (spans span other)
      ++ ["error: " ++ cause.message])

end Mistake
end Chip8.Pattern
