import KnowledgeBase.Text.Blank
import KnowledgeBase.Text.Mark

/-!
# Quoted text

A text is shown between quotes with the characters escaped that would not show: quotes and
backslashes, controls, white space other than the plain space, characters that extend others, and
those of format or of private use.

## Main definitions

* `Text.quoted` — a text between quotes.
-/

namespace KnowledgeBase.Text

/-- Characters of format and of private use, and the last planes, which hold no others. -/
def formatRanges : Ranges := [
  (0xAD, 0xAD), (0x600, 0x605), (0x61C, 0x61C), (0x6DD, 0x6DD), (0x70F, 0x70F), (0x890, 0x891),
  (0x8E2, 0x8E2), (0x180E, 0x180E), (0x200B, 0x200F), (0x202A, 0x202E), (0x2060, 0x206F),
  (0xE000, 0xF8FF), (0xFEFF, 0xFEFF), (0xFFF0, 0xFFFB), (0xFFFE, 0xFFFF), (0x110BD, 0x110BD),
  (0x110CD, 0x110CD), (0x13430, 0x1343F), (0x1BCA0, 0x1BCA3), (0x1D173, 0x1D17A),
  (0x3347A, 0x10FFFF)]

/-- Whether a character does not show. -/
def isHidden (c : Char) : Bool :=
  c.toNat < 0x20 || (0x7F ≤ c.toNat && c.toNat < 0xA0) || (isSpace c && c != ' ')
    || isExtending c || formatRanges.has c

/-- A character within quotes. -/
def escaped (c : Char) : List Char :=
  match c with
  | '\t' => ['\\', 't']
  | '\n' => ['\\', 'n']
  | '\r' => ['\\', 'r']
  | '\x00' => ['\\', '0']
  | '"' => ['\\', '"']
  | '\\' => ['\\', '\\']
  | c => if isHidden c then "\\u\x7b".toList ++ Nat.toDigits 16 c.toNat ++ ['\x7d'] else [c]

/-- A text between quotes. -/
def quoted (s : String) : String :=
  String.ofList ('"' :: s.toList.flatMap escaped ++ ['"'])

end KnowledgeBase.Text
