/-! Quoted texts in diagnostics: what cannot be seen is escaped. -/

namespace WasmHost

namespace Quoted

/-- Ranges of characters that have no glyph of their own: controls, separators, format characters,
marks that join what comes before them, and what is no character. -/
def unseen : List (Nat × Nat) :=
  [(0x00, 0x1F), (0x7F, 0xA0), (0xAD, 0xAD), (0x300, 0x36F), (0x378, 0x379), (0x483, 0x489),
   (0x591, 0x5BD), (0x600, 0x605), (0x610, 0x61A), (0x61C, 0x61C), (0x64B, 0x65F), (0x6DD, 0x6DD),
   (0x70F, 0x70F), (0x1680, 0x1680), (0x180B, 0x180F), (0x1AB0, 0x1AFF), (0x1DC0, 0x1DFF),
   (0x2000, 0x200F), (0x2028, 0x202F), (0x205F, 0x206F), (0x20D0, 0x20F0), (0x3000, 0x3000),
   (0x302A, 0x302F), (0x3099, 0x309A), (0xD800, 0xF8FF), (0xFE00, 0xFE0F), (0xFE20, 0xFE2F),
   (0xFEFF, 0xFEFF), (0xFFF0, 0xFFFB), (0xFFFE, 0xFFFF), (0x1D173, 0x1D17A), (0xE0000, 0x10FFFF)]

/-- The lowercase hexadecimal digits of a number. -/
def hex (n : Nat) : String := String.ofList (Nat.toDigits 16 n)

/-- A character inside quotes. -/
def escape (c : Char) : String :=
  if c = '"' then "\\\""
  else if c = '\\' then "\\\\"
  else if c = '\t' then "\\t"
  else if c = '\n' then "\\n"
  else if c = '\r' then "\\r"
  else if c = '\x00' then "\\0"
  else if unseen.any fun (low, high) => low ≤ c.toNat && c.toNat ≤ high then
    "\\u\x7b" ++ hex c.toNat ++ "\x7d"
  else String.singleton c

end Quoted

/-- A text between quotes. -/
def quoted (text : String) : String := "\"" ++ String.join (text.toList.map Quoted.escape) ++ "\""

/-- Texts between quotes, in brackets. -/
def quotedList (texts : List String) : String := "[" ++ String.intercalate ", " (texts.map quoted) ++ "]"

end WasmHost
