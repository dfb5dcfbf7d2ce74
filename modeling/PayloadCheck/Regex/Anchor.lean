import PayloadCheck.Unicode.Named

/-!
# Anchors

An anchor asks something of a gap, the place between two neighbouring characters of a text or at
one of its ends, and reads nothing.
-/

namespace PayloadCheck

namespace Regex

/-- The characters on both sides of a place in a text; `none` at an end. -/
structure Gap where
  before : Option Char
  after : Option Char

inductive WordEdge where
  | boundary
  | inside
  | start
  | finish
  | startHalf
  | finishHalf
  deriving DecidableEq, Repr

inductive Anchor where
  | textStart
  | textEnd
  | lineStart
  | lineEnd
  | crlfStart
  | crlfEnd
  | word (edge : WordEdge)
  | asciiWord (edge : WordEdge)
  deriving DecidableEq, Repr

def WordEdge.holds (before after : Bool) : WordEdge → Bool
  | boundary => before != after
  | inside => before == after
  | start => !before && after
  | finish => before && !after
  | startHalf => !before
  | finishHalf => !after

/-- Whether a neighbour exists and belongs to a set. -/
def isIn (s : CodeSet) (c : Option Char) : Bool := c.any fun c => s.contains c.toNat

/-- In CRLF mode a carriage return and the line feed after it are not parted. -/
def Anchor.holds (g : Gap) : Anchor → Bool
  | textStart => g.before.isNone
  | textEnd => g.after.isNone
  | lineStart => g.before.isNone || g.before == some '\n'
  | lineEnd => g.after.isNone || g.after == some '\n'
  | crlfStart =>
    g.before.isNone || g.before == some '\n' || (g.before == some '\r' && g.after != some '\n')
  | crlfEnd =>
    g.after.isNone || g.after == some '\r' || (g.after == some '\n' && g.before != some '\r')
  | word edge => edge.holds (isIn CodeSet.word g.before) (isIn CodeSet.word g.after)
  | asciiWord edge =>
    edge.holds (isIn CodeSet.asciiWord g.before) (isIn CodeSet.asciiWord g.after)

end Regex

end PayloadCheck
