import RelProto.Network.Domain.Mark

/-! Invisible characters between letters, which make the letters join or keep them apart. -/
namespace RelProto.Network.Domain

open Text (CodePoints)

/-- Letters that join the one after them. -/
def joinsNext : CodePoints := [
  (0x620, 0x620, 1), (0x626, 0x62a, 2), (0x62b, 0x62e, 1), (0x633, 0x63f, 1), (0x641, 0x647, 1),
  (0x649, 0x64a, 1), (0x66e, 0x66f, 1), (0x679, 0x687, 1), (0x69a, 0x6bf, 1), (0x6c1, 0x6c2, 1),
  (0x6cc, 0x6d0, 2), (0x6d1, 0x6d1, 1), (0x6fa, 0x6fc, 1), (0x6ff, 0x6ff, 1), (0x712, 0x714, 1),
  (0x71a, 0x71d, 1), (0x71f, 0x727, 1), (0x729, 0x72d, 2), (0x72e, 0x72e, 1), (0x74e, 0x758, 1),
  (0x75c, 0x766, 1), (0x850, 0x853, 1), (0x855, 0x855, 1), (0x8a0, 0x8a2, 2), (0x8a3, 0x8a9, 1),
  (0x1807, 0x1807, 1), (0x1820, 0x1877, 1), (0x1887, 0x18a8, 1), (0x18aa, 0x18aa, 1),
  (0xa840, 0xa872, 1)]

/-- Letters that join the one before them. -/
def joinsPrevious : CodePoints := [
  (0x620, 0x622, 2), (0x623, 0x63f, 1), (0x641, 0x64a, 1), (0x66e, 0x66f, 1), (0x671, 0x673, 1),
  (0x679, 0x6d3, 1), (0x6d5, 0x6d5, 1), (0x6ee, 0x6ef, 1), (0x6fa, 0x6fc, 1), (0x6ff, 0x6ff, 1),
  (0x710, 0x712, 2), (0x713, 0x72f, 1), (0x74d, 0x766, 1), (0x850, 0x855, 1), (0x8a0, 0x8a2, 2),
  (0x8a3, 0x8ac, 1), (0x1807, 0x1807, 1), (0x1820, 0x1877, 1), (0x1887, 0x18a8, 1),
  (0x18aa, 0x18aa, 1), (0xa840, 0xa871, 1)]

def nonJoiner : Char := '\u200c'
def joiner : Char := '\u200d'

/-- Whether a joiner or a non-joiner may stand between what is `before` it, nearest first, and what
is `after` it: behind a mark without vowel, or, to keep them apart, between letters that join. -/
def mayJoin (c : Char) (before after : List Char) : Bool :=
  before.head?.any viramas.contains ||
    (c == nonJoiner && (before.dropWhile isNonspacing).head?.any joinsNext.contains &&
      (after.dropWhile isNonspacing).head?.any joinsPrevious.contains)

/-- Whether all joiners of a text have a place, given the characters already passed. -/
def joinsWellAfter (before : List Char) : List Char → Bool
  | [] => true
  | c :: rest =>
    ((c != joiner && c != nonJoiner) || mayJoin c before rest) && joinsWellAfter (c :: before) rest

def joinsWell (text : List Char) : Bool := joinsWellAfter [] text

example : joinsWell "\u200d".toList = false ∧ joinsWell "\u0915\u094d\u200d".toList = true ∧
    joinsWell "\u0628\u200c\u0628".toList = true ∧ joinsWell "a\u200cb".toList = false := by
  decide +kernel

end RelProto.Network.Domain
