/-!
# Patterns: flags

How the signs of a pattern are read.  Flags change from a place in a pattern to the end
of the group around it.
-/

namespace RequestGuard
namespace Pattern

/-- How the signs of a pattern are read. -/
structure Flags where
  /-- Letters stand for themselves in either case. -/
  caseless : Bool
  /-- `^` and `$` also match at lines. -/
  multiLine : Bool
  /-- `.` also matches line ends. -/
  dotAll : Bool
  /-- Repetitions are short unless marked, and the marked ones long. -/
  lazyFirst : Bool
  /-- Characters count, not bytes. -/
  unicode : Bool
  /-- Carriage returns end lines too. -/
  anyLineEnd : Bool
  /-- Blanks and comments say nothing. -/
  spaced : Bool
  deriving DecidableEq, Repr

/-- How a pattern is read and what it may match. -/
structure Options where
  /-- The flags at the start. -/
  flags : Flags
  /-- Whether every match must consist of whole characters. -/
  wholeChars : Bool
  deriving DecidableEq, Repr

namespace Options

/-- Patterns over characters. -/
def chars : Options :=
  ⟨⟨false, false, false, false, true, false, false⟩, true⟩

/-- Patterns over bytes. -/
def bytes : Options :=
  ⟨⟨false, false, false, false, false, false, false⟩, false⟩

end Options
end Pattern
end RequestGuard
