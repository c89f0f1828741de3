import TypedId.Unicode.Runs

/-!
# Blank code points

White space of Unicode 14 together with the four information separators U+001C to U+001F.
-/

set_option autoImplicit false

namespace TypedId.Unicode

/-- The code points stripped from the ends of a selector. -/
def blank : Runs :=
  [(0x9, 0xD), (0x1C, 0x20), (0x85, 0x85), (0xA0, 0xA0), (0x1680, 0x1680), (0x2000, 0x200A),
   (0x2028, 0x2029), (0x202F, 0x202F), (0x205F, 0x205F), (0x3000, 0x3000)]

end TypedId.Unicode
