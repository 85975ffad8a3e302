import BearerGate.Unicode.Table

/-!
# Joining

Which letters of cursive scripts are joined to the letters beside them, and at which side.
-/

namespace BearerGate.Unicode

/-- Letters that are joined at both sides. -/
def joinedBothSides : CharSet := ⟨[
    (0x620, 0x620), (0x626, 0x626), (0x628, 0x628), (0x62a, 0x62e), (0x633, 0x63f), (0x641, 0x647), (0x649, 0x64a),
    (0x66e, 0x66f), (0x678, 0x687), (0x69a, 0x6bf), (0x6c1, 0x6c2), (0x6cc, 0x6cc), (0x6ce, 0x6ce), (0x6d0, 0x6d1),
    (0x6fa, 0x6fc), (0x6ff, 0x6ff), (0x712, 0x714), (0x71a, 0x71d), (0x71f, 0x727), (0x729, 0x729), (0x72b, 0x72b),
    (0x72d, 0x72e), (0x74e, 0x758), (0x75c, 0x766), (0x850, 0x853), (0x855, 0x855), (0x8a0, 0x8a0), (0x8a2, 0x8a9),
    (0x1807, 0x1807), (0x1820, 0x1877), (0x1887, 0x18a8), (0x18aa, 0x18aa), (0xa840, 0xa871)]⟩

/-- Letters that are joined to the next letter only. -/
def joinedToNext : CharSet := ⟨[(0xa872, 0xa872)]⟩

/-- Letters that are joined to the letter before them only. -/
def joinedToPrevious : CharSet := ⟨[
    (0x622, 0x625), (0x627, 0x627), (0x629, 0x629), (0x62f, 0x632), (0x648, 0x648), (0x671, 0x673), (0x675, 0x677),
    (0x688, 0x699), (0x6c0, 0x6c0), (0x6c3, 0x6cb), (0x6cd, 0x6cd), (0x6cf, 0x6cf), (0x6d2, 0x6d3), (0x6d5, 0x6d5),
    (0x6ee, 0x6ef), (0x710, 0x710), (0x715, 0x719), (0x71e, 0x71e), (0x728, 0x728), (0x72a, 0x72a), (0x72c, 0x72c),
    (0x72f, 0x72f), (0x74d, 0x74d), (0x759, 0x75b), (0x854, 0x854), (0x8aa, 0x8ac)]⟩

/-- Letters that can be joined to the next one. -/
def joinsNext (c : Char) : Bool := joinedBothSides.contains c || joinedToNext.contains c

/-- Letters that can be joined to the one before them. -/
def joinsPrevious (c : Char) : Bool := joinedBothSides.contains c || joinedToPrevious.contains c

end BearerGate.Unicode
