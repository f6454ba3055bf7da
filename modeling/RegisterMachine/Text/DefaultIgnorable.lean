import RegisterMachine.Text.CharClass

/-!
# Characters that are ignored when a text is drawn

The characters with the Unicode property Default_Ignorable_Code_Point. They
steer how a text is laid out and are themselves drawn as nothing. The fillers of
the Hangul script belong to the class although they count as letters.
-/

namespace RegisterMachine
namespace Text

/-- The characters that are drawn as nothing. -/
def defaultIgnorable : CharClass where
  ranges := [
    (0xAD, 0xAD), (0x34F, 0x34F), (0x61C, 0x61C), (0x115F, 0x1160), (0x17B4, 0x17B5),
    (0x180B, 0x180F), (0x200B, 0x200F), (0x202A, 0x202E), (0x2060, 0x206F), (0x3164, 0x3164),
    (0xFE00, 0xFE0F), (0xFEFF, 0xFEFF), (0xFFA0, 0xFFA0), (0xFFF0, 0xFFF8), (0x1BCA0, 0x1BCA3),
    (0x1D173, 0x1D17A), (0xE0000, 0xE0FFF)]

end Text
end RegisterMachine
