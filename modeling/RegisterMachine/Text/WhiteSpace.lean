import RegisterMachine.Text.CharClass

/-!
# White space

The characters with the Unicode property White_Space, and the removal of white
space from both ends of a text. Zero-width spaces and the byte order mark do not
belong to the class.
-/

namespace RegisterMachine
namespace Text

/-- The white space of every script. -/
def whiteSpace : CharClass where
  ranges := [
    (0x9, 0xD), (0x20, 0x20), (0x85, 0x85), (0xA0, 0xA0), (0x1680, 0x1680), (0x2000, 0x200A),
    (0x2028, 0x2029), (0x202F, 0x202F), (0x205F, 0x205F), (0x3000, 0x3000)]

/-- Remove the characters of a class from both ends of a text. -/
def trim (charClass : CharClass) (cs : List Char) : List Char :=
  ((cs.dropWhile charClass.contains).reverse.dropWhile charClass.contains).reverse

end Text
end RegisterMachine
