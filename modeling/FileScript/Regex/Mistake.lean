/-!
# Mistakes in regular expressions

A mistake is reported together with the expression, in which the place of the mistake is pointed out
by a line of carets.
-/

namespace FileScript.Regex

/-- A place in an expression. Lines and columns are counted from one. -/
structure Point where
  line : Nat := 1
  column : Nat := 1
  deriving DecidableEq, Repr, Inhabited

/-- A stretch of an expression. -/
structure Span where
  first : Point
  /-- The place after the stretch. -/
  last : Point
  deriving DecidableEq, Repr, Inhabited

/-- How deep groups, repetitions and classes may be nested in each other. -/
def nestLimit : Nat := 250

/-- What is wrong with an expression. -/
inductive MistakeKind where
  | groupUnclosed
  | groupUnopened
  | groupNameEmpty
  | groupNameInvalid
  | groupNameUnclosed
  | groupNameDuplicate
  | lookAround
  | backreference
  | repetitionMissing
  | countUnclosed
  | countEmpty
  | countInvalid
  | decimalInvalid
  | classUnclosed
  | classEscape
  | classRangeInvalid
  | classRangeLiteral
  | escapeUnfinished
  | escapeUnknown
  | hexEmpty
  | hexInvalid
  | hexDigit
  | flagUnknown
  | flagDuplicate
  | flagNegationDangling
  | flagNegationRepeated
  | flagUnfinished
  | edgeUnclosed
  | edgeUnknown
  | edgeUnfinished
  | propertyInvalid
  | propertyUnknown
  | propertyValueUnknown
  | shortClassUnavailable
  | caseUnavailable
  | unicodeNotAllowed
  | notUtf8
  | nestedTooDeep
  deriving DecidableEq, Repr, Inhabited

namespace MistakeKind

/-- The text of a mistake. -/
def text : MistakeKind → String
  | groupUnclosed => "unclosed group"
  | groupUnopened => "unopened group"
  | groupNameEmpty => "empty capture group name"
  | groupNameInvalid => "invalid capture group character"
  | groupNameUnclosed => "unclosed capture group name"
  | groupNameDuplicate => "duplicate capture group name"
  | lookAround => "look-around, including look-ahead and look-behind, is not supported"
  | backreference => "backreferences are not supported"
  | repetitionMissing => "repetition operator missing expression"
  | countUnclosed => "unclosed counted repetition"
  | countEmpty => "repetition quantifier expects a valid decimal"
  | countInvalid => "invalid repetition count range, the start must be <= the end"
  | decimalInvalid => "decimal literal invalid"
  | classUnclosed => "unclosed character class"
  | classEscape => "invalid escape sequence found in character class"
  | classRangeInvalid => "invalid character class range, the start must be <= the end"
  | classRangeLiteral => "invalid range boundary, must be a literal"
  | escapeUnfinished => "incomplete escape sequence, reached end of pattern prematurely"
  | escapeUnknown => "unrecognized escape sequence"
  | hexEmpty => "hexadecimal literal empty"
  | hexInvalid => "hexadecimal literal is not a Unicode scalar value"
  | hexDigit => "invalid hexadecimal digit"
  | flagUnknown => "unrecognized flag"
  | flagDuplicate => "duplicate flag"
  | flagNegationDangling => "dangling flag negation operator"
  | flagNegationRepeated => "flag negation operator repeated"
  | flagUnfinished => "expected flag but got end of regex"
  | edgeUnclosed =>
    "special word boundary assertion is either unclosed or contains an invalid character"
  | edgeUnknown =>
    "unrecognized special word boundary assertion, valid choices are: " ++
      "start, end, start-half or end-half"
  | edgeUnfinished =>
    "found either the beginning of a special word boundary or a bounded repetition " ++
      "on a \\b with an opening brace, but no closing brace"
  | propertyInvalid => "invalid Unicode character class"
  | propertyUnknown => "Unicode property not found"
  | propertyValueUnknown => "Unicode property value not found"
  | shortClassUnavailable =>
    "Unicode-aware Perl class not found (make sure the unicode-perl feature is enabled)"
  | caseUnavailable =>
    "Unicode-aware case insensitivity matching is not available " ++
      "(make sure the unicode-case feature is enabled)"
  | unicodeNotAllowed => "Unicode not allowed here"
  | notUtf8 => "pattern can match invalid UTF-8"
  | nestedTooDeep => s!"exceed the maximum number of nested parentheses/brackets ({nestLimit})"

end MistakeKind

/-- A mistake at its place. -/
structure Mistake where
  kind : MistakeKind
  span : Span
  /-- A place that the mistake has to do with. -/
  related : Option Span := none
  deriving DecidableEq, Repr, Inhabited

namespace Mistake

/-- The lines of an expression. A line end at the end does not begin another one. -/
def lines (expression : String) : List String :=
  match (expression.splitOn "\n").reverse with
  | "" :: rest => rest.reverse
  | all => all.reverse

/-- A number at the end of so many characters. -/
def padded (width n : Nat) : String :=
  "".pushn ' ' (width - (toString n).length) ++ toString n

/-- A line that has carets under the given spans, after `indent` spaces. -/
def carets (indent : Nat) (spans : List Span) : String :=
  (spans.foldl (fun (text, column) span =>
    let width := max 1 (span.last.column - span.first.column)
    let gap := span.first.column - 1 - column
    ((text.pushn ' ' gap).pushn '^' width, column + gap + width)) ("".pushn ' ' indent, 0)).1

/-- Whether a span comes before another one or in its place. -/
def atOrBefore (a b : Span) : Bool :=
  a.first.line < b.first.line || (a.first.line == b.first.line && a.first.column ≤ b.first.column)

/-- The spans of a mistake, in order. -/
def spans (m : Mistake) : List Span := (m.span :: m.related.toList).mergeSort atOrBefore

/-- The lines of an expression with carets under the spans that lie in one line. -/
def annotated (m : Mistake) (expression : String) : String :=
  let all := lines expression
  let count := all.length + if expression.endsWith "\n" then 1 else 0
  let width := if count ≤ 1 then 0 else (toString count).length
  let inLine := m.spans.filter fun span => span.first.line == span.last.line
  String.join <| all.zipIdx.map fun (line, i) =>
    let here := inLine.filter (·.first.line == i + 1)
    let margin := if width = 0 then "    " else padded width (i + 1) ++ ": "
    margin ++ line ++ "\n" ++ if here = [] then "" else carets margin.length here ++ "\n"

/-- The report of a mistake in an expression. -/
def report (m : Mistake) (expression : String) : String :=
  if '\n' ∈ expression.toList then
    let divider := "".pushn '~' 79 ++ "\n"
    let across := m.spans.filter fun span => span.first.line != span.last.line
    let notes := across.map fun span =>
      s!"on line {span.first.line} (column {span.first.column}) through " ++
        s!"line {span.last.line} (column {span.last.column - 1})"
    "regex parse error:\n" ++ divider ++ m.annotated expression ++ divider ++
      (if notes = [] then "" else "\n".intercalate notes ++ "\n") ++ s!"error: {m.kind.text}"
  else "regex parse error:\n" ++ m.annotated expression ++ s!"error: {m.kind.text}"

end Mistake

end FileScript.Regex
