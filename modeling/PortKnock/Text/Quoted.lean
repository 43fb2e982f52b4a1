import PortKnock.Text.Unprintable
import PortKnock.Text.GraphemeExtend

/-!
# Quoted text

Text as it is shown inside messages: between double quotes, with everything
escaped that would not be seen as itself on its own.
-/

namespace PortKnock.Text

/-- A code point in lower case hexadecimal digits without leading zeros. -/
def hexDigits (value : Nat) : List Char :=
  Nat.toDigits 16 value

/-- The letters of Hangul that only fill a place. -/
def isHangulFiller (c : Char) : Bool :=
  ['\u115f', '\u1160', '\u3164', '\uffa0'].contains c

/-- The sound marks of halfwidth Katakana, which extend the character in front of them and have a
place of their own even so. -/
def isHalfwidthSoundMark (c : Char) : Bool :=
  ['\uff9e', '\uff9f'].contains c

/-- Whether a character would not be seen as itself on its own. -/
def isObscure (c : Char) : Bool :=
  isUnprintable c || isHangulFiller c || isGraphemeExtend c && !isHalfwidthSoundMark c

/-- A character as it stands between quotes. -/
def escape (c : Char) : List Char :=
  match c with
  | '\x00' => ['\\', '0']
  | '\t' => ['\\', 't']
  | '\r' => ['\\', 'r']
  | '\n' => ['\\', 'n']
  | '\\' => ['\\', '\\']
  | '"' => ['\\', '"']
  | c =>
    if isObscure c then
      ['\\', 'u', '\x7b'] ++ hexDigits c.toNat ++ ['\x7d']
    else [c]

/-- Text in double quotes. -/
def quoted (text : String) : String :=
  String.ofList ('"' :: (text.toList.flatMap escape ++ ['"']))

end PortKnock.Text
