import RegisterMachine.Text.DefaultIgnorable
import RegisterMachine.Text.ExtendingMark
import RegisterMachine.Text.Unprintable

/-!
# Quoted text

A text is quoted for display between two equal quotation marks. The mark itself
and the backslash are written after a backslash, four control characters have a
letter of their own, and every other character that cannot be shown is written
as its code point in hexadecimal. Everything else stands for itself.
-/

namespace RegisterMachine
namespace Text

/-- Whether a character is displayed by its code point: it has no visible form, is ignored when a
text is drawn, or is drawn on the character before it. -/
def shownByCode (c : Char) : Bool :=
  unprintable.contains c || defaultIgnorable.contains c || extendingMark.contains c

/-- The letter that stands after a backslash for a character, if it has one. -/
def escapeLetter? (mark c : Char) : Option Char :=
  if c = '\x00' then some '0'
  else if c = '\t' then some 't'
  else if c = '\n' then some 'n'
  else if c = '\r' then some 'r'
  else if c = '\\' then some '\\'
  else if c = mark then some mark
  else none

/-- A character as it is displayed between two quotation marks. -/
def escape (mark c : Char) : List Char :=
  match escapeLetter? mark c with
  | some letter => ['\\', letter]
  | none =>
      if shownByCode c then
        ['\\', 'u', '\x7b'] ++ Nat.toDigits 16 c.toNat ++ ['\x7d']
      else
        [c]

/-- A text between two quotation marks. -/
def quoted (mark : Char) (cs : List Char) : String :=
  String.ofList (mark :: cs.flatMap (escape mark) ++ [mark])

/-- A single character between single quotation marks. -/
def quotedChar (c : Char) : String :=
  quoted '\'' [c]

/-- A text between double quotation marks. -/
def quotedText (text : String) : String :=
  quoted '"' text.toList

end Text
end RegisterMachine
