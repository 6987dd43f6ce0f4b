import TypedModules.Text.CodePoints

/-! # Blanks

Blank characters separate words and are dropped at both ends of a line. Next to
the blanks of ASCII they are the separator characters 0x1C to 0x1F, the next
line character, and the spaces and separators beyond ASCII.
-/

namespace TypedModules.Text

def blanks : CodePoints :=
  [(0x9, 0xD), (0x1C, 0x20), (0x85, 0x85), (0xA0, 0xA0), (0x1680, 0x1680), (0x2000, 0x200A),
    (0x2028, 0x2029), (0x202F, 0x202F), (0x205F, 0x205F), (0x3000, 0x3000)]

def isBlank (character : Char) : Bool :=
  blanks.contains character

def trim (text : List Char) : List Char :=
  ((text.dropWhile isBlank).reverse.dropWhile isBlank).reverse

end TypedModules.Text
