/-! Character sets with one byte for each character. Bytes below 128 are ASCII in all of them; the
tables give the upper halves in runs of consecutive bytes and characters. -/

namespace Intake.Xml.ByteSet

/-- A run: its first byte, its first character, and how many there are. -/
abbrev Run := Nat × Nat × Nat

/-- The upper half of a set for the Latin alphabets of central Europe, by the international
standard. -/
def iso8859Part2 : List Run :=
  [(0x80, 0x80, 33), (0xa1, 0x104, 1), (0xa2, 0x2d8, 1), (0xa3, 0x141, 1), (0xa4, 0xa4, 1),
    (0xa5, 0x13d, 1), (0xa6, 0x15a, 1), (0xa7, 0xa7, 2), (0xa9, 0x160, 1), (0xaa, 0x15e, 1),
    (0xab, 0x164, 1), (0xac, 0x179, 1), (0xad, 0xad, 1), (0xae, 0x17d, 1), (0xaf, 0x17b, 1),
    (0xb0, 0xb0, 1), (0xb1, 0x105, 1), (0xb2, 0x2db, 1), (0xb3, 0x142, 1), (0xb4, 0xb4, 1),
    (0xb5, 0x13e, 1), (0xb6, 0x15b, 1), (0xb7, 0x2c7, 1), (0xb8, 0xb8, 1), (0xb9, 0x161, 1),
    (0xba, 0x15f, 1), (0xbb, 0x165, 1), (0xbc, 0x17a, 1), (0xbd, 0x2dd, 1), (0xbe, 0x17e, 1),
    (0xbf, 0x17c, 1), (0xc0, 0x154, 1), (0xc1, 0xc1, 2), (0xc3, 0x102, 1), (0xc4, 0xc4, 1),
    (0xc5, 0x139, 1), (0xc6, 0x106, 1), (0xc7, 0xc7, 1), (0xc8, 0x10c, 1), (0xc9, 0xc9, 1),
    (0xca, 0x118, 1), (0xcb, 0xcb, 1), (0xcc, 0x11a, 1), (0xcd, 0xcd, 2), (0xcf, 0x10e, 1),
    (0xd0, 0x110, 1), (0xd1, 0x143, 1), (0xd2, 0x147, 1), (0xd3, 0xd3, 2), (0xd5, 0x150, 1),
    (0xd6, 0xd6, 2), (0xd8, 0x158, 1), (0xd9, 0x16e, 1), (0xda, 0xda, 1), (0xdb, 0x170, 1),
    (0xdc, 0xdc, 2), (0xde, 0x162, 1), (0xdf, 0xdf, 1), (0xe0, 0x155, 1), (0xe1, 0xe1, 2),
    (0xe3, 0x103, 1), (0xe4, 0xe4, 1), (0xe5, 0x13a, 1), (0xe6, 0x107, 1), (0xe7, 0xe7, 1),
    (0xe8, 0x10d, 1), (0xe9, 0xe9, 1), (0xea, 0x119, 1), (0xeb, 0xeb, 1), (0xec, 0x11b, 1),
    (0xed, 0xed, 2), (0xef, 0x10f, 1), (0xf0, 0x111, 1), (0xf1, 0x144, 1), (0xf2, 0x148, 1),
    (0xf3, 0xf3, 2), (0xf5, 0x151, 1), (0xf6, 0xf6, 2), (0xf8, 0x159, 1), (0xf9, 0x16f, 1),
    (0xfa, 0xfa, 1), (0xfb, 0x171, 1), (0xfc, 0xfc, 2), (0xfe, 0x163, 1), (0xff, 0x2d9, 1)]

/-- The upper half of a set for Cyrillic, by the international standard. -/
def iso8859Part5 : List Run :=
  [(0x80, 0x80, 33), (0xa1, 0x401, 12), (0xad, 0xad, 1), (0xae, 0x40e, 66), (0xf0, 0x2116, 1),
    (0xf1, 0x451, 12), (0xfd, 0xa7, 1), (0xfe, 0x45e, 2)]

/-- The upper half of a set for Greek, by the international standard. -/
def iso8859Part7 : List Run :=
  [(0x80, 0x80, 33), (0xa1, 0x2018, 2), (0xa3, 0xa3, 1), (0xa4, 0x20ac, 1), (0xa5, 0x20af, 1),
    (0xa6, 0xa6, 4), (0xaa, 0x37a, 1), (0xab, 0xab, 3), (0xaf, 0x2015, 1), (0xb0, 0xb0, 4),
    (0xb4, 0x384, 3), (0xb7, 0xb7, 1), (0xb8, 0x388, 3), (0xbb, 0xbb, 1), (0xbc, 0x38c, 1),
    (0xbd, 0xbd, 1), (0xbe, 0x38e, 20), (0xd3, 0x3a3, 44)]

/-- The upper half of a set for Turkish, by the international standard. -/
def iso8859Part9 : List Run :=
  [(0x80, 0x80, 80), (0xd0, 0x11e, 1), (0xd1, 0xd1, 12), (0xdd, 0x130, 1), (0xde, 0x15e, 1),
    (0xdf, 0xdf, 17), (0xf0, 0x11f, 1), (0xf1, 0xf1, 12), (0xfd, 0x131, 1), (0xfe, 0x15f, 1),
    (0xff, 0xff, 1)]

/-- The upper half of a set for the Latin alphabets of western Europe with the sign of the euro. -/
def iso8859Part15 : List Run :=
  [(0x80, 0x80, 36), (0xa4, 0x20ac, 1), (0xa5, 0xa5, 1), (0xa6, 0x160, 1), (0xa7, 0xa7, 1),
    (0xa8, 0x161, 1), (0xa9, 0xa9, 11), (0xb4, 0x17d, 1), (0xb5, 0xb5, 3), (0xb8, 0x17e, 1),
    (0xb9, 0xb9, 3), (0xbc, 0x152, 2), (0xbe, 0x178, 1), (0xbf, 0xbf, 65)]

/-- The upper half of a set for the Latin alphabets of central Europe. -/
def windows1250 : List Run :=
  [(0x80, 0x20ac, 1), (0x82, 0x201a, 1), (0x84, 0x201e, 1), (0x85, 0x2026, 1), (0x86, 0x2020, 2),
    (0x89, 0x2030, 1), (0x8a, 0x160, 1), (0x8b, 0x2039, 1), (0x8c, 0x15a, 1), (0x8d, 0x164, 1),
    (0x8e, 0x17d, 1), (0x8f, 0x179, 1), (0x91, 0x2018, 2), (0x93, 0x201c, 2), (0x95, 0x2022, 1),
    (0x96, 0x2013, 2), (0x99, 0x2122, 1), (0x9a, 0x161, 1), (0x9b, 0x203a, 1), (0x9c, 0x15b, 1),
    (0x9d, 0x165, 1), (0x9e, 0x17e, 1), (0x9f, 0x17a, 1), (0xa0, 0xa0, 1), (0xa1, 0x2c7, 1),
    (0xa2, 0x2d8, 1), (0xa3, 0x141, 1), (0xa4, 0xa4, 1), (0xa5, 0x104, 1), (0xa6, 0xa6, 4),
    (0xaa, 0x15e, 1), (0xab, 0xab, 4), (0xaf, 0x17b, 1), (0xb0, 0xb0, 2), (0xb2, 0x2db, 1),
    (0xb3, 0x142, 1), (0xb4, 0xb4, 5), (0xb9, 0x105, 1), (0xba, 0x15f, 1), (0xbb, 0xbb, 1),
    (0xbc, 0x13d, 1), (0xbd, 0x2dd, 1), (0xbe, 0x13e, 1), (0xbf, 0x17c, 1), (0xc0, 0x154, 1),
    (0xc1, 0xc1, 2), (0xc3, 0x102, 1), (0xc4, 0xc4, 1), (0xc5, 0x139, 1), (0xc6, 0x106, 1),
    (0xc7, 0xc7, 1), (0xc8, 0x10c, 1), (0xc9, 0xc9, 1), (0xca, 0x118, 1), (0xcb, 0xcb, 1),
    (0xcc, 0x11a, 1), (0xcd, 0xcd, 2), (0xcf, 0x10e, 1), (0xd0, 0x110, 1), (0xd1, 0x143, 1),
    (0xd2, 0x147, 1), (0xd3, 0xd3, 2), (0xd5, 0x150, 1), (0xd6, 0xd6, 2), (0xd8, 0x158, 1),
    (0xd9, 0x16e, 1), (0xda, 0xda, 1), (0xdb, 0x170, 1), (0xdc, 0xdc, 2), (0xde, 0x162, 1),
    (0xdf, 0xdf, 1), (0xe0, 0x155, 1), (0xe1, 0xe1, 2), (0xe3, 0x103, 1), (0xe4, 0xe4, 1),
    (0xe5, 0x13a, 1), (0xe6, 0x107, 1), (0xe7, 0xe7, 1), (0xe8, 0x10d, 1), (0xe9, 0xe9, 1),
    (0xea, 0x119, 1), (0xeb, 0xeb, 1), (0xec, 0x11b, 1), (0xed, 0xed, 2), (0xef, 0x10f, 1),
    (0xf0, 0x111, 1), (0xf1, 0x144, 1), (0xf2, 0x148, 1), (0xf3, 0xf3, 2), (0xf5, 0x151, 1),
    (0xf6, 0xf6, 2), (0xf8, 0x159, 1), (0xf9, 0x16f, 1), (0xfa, 0xfa, 1), (0xfb, 0x171, 1),
    (0xfc, 0xfc, 2), (0xfe, 0x163, 1), (0xff, 0x2d9, 1)]

/-- The upper half of a set for Cyrillic. -/
def windows1251 : List Run :=
  [(0x80, 0x402, 2), (0x82, 0x201a, 1), (0x83, 0x453, 1), (0x84, 0x201e, 1), (0x85, 0x2026, 1),
    (0x86, 0x2020, 2), (0x88, 0x20ac, 1), (0x89, 0x2030, 1), (0x8a, 0x409, 1), (0x8b, 0x2039, 1),
    (0x8c, 0x40a, 1), (0x8d, 0x40c, 1), (0x8e, 0x40b, 1), (0x8f, 0x40f, 1), (0x90, 0x452, 1),
    (0x91, 0x2018, 2), (0x93, 0x201c, 2), (0x95, 0x2022, 1), (0x96, 0x2013, 2), (0x99, 0x2122, 1),
    (0x9a, 0x459, 1), (0x9b, 0x203a, 1), (0x9c, 0x45a, 1), (0x9d, 0x45c, 1), (0x9e, 0x45b, 1),
    (0x9f, 0x45f, 1), (0xa0, 0xa0, 1), (0xa1, 0x40e, 1), (0xa2, 0x45e, 1), (0xa3, 0x408, 1),
    (0xa4, 0xa4, 1), (0xa5, 0x490, 1), (0xa6, 0xa6, 2), (0xa8, 0x401, 1), (0xa9, 0xa9, 1),
    (0xaa, 0x404, 1), (0xab, 0xab, 4), (0xaf, 0x407, 1), (0xb0, 0xb0, 2), (0xb2, 0x406, 1),
    (0xb3, 0x456, 1), (0xb4, 0x491, 1), (0xb5, 0xb5, 3), (0xb8, 0x451, 1), (0xb9, 0x2116, 1),
    (0xba, 0x454, 1), (0xbb, 0xbb, 1), (0xbc, 0x458, 1), (0xbd, 0x405, 1), (0xbe, 0x455, 1),
    (0xbf, 0x457, 1), (0xc0, 0x410, 64)]

/-- The upper half of a set for the Latin alphabets of western Europe. -/
def windows1252 : List Run :=
  [(0x80, 0x20ac, 1), (0x82, 0x201a, 1), (0x83, 0x192, 1), (0x84, 0x201e, 1), (0x85, 0x2026, 1),
    (0x86, 0x2020, 2), (0x88, 0x2c6, 1), (0x89, 0x2030, 1), (0x8a, 0x160, 1), (0x8b, 0x2039, 1),
    (0x8c, 0x152, 1), (0x8e, 0x17d, 1), (0x91, 0x2018, 2), (0x93, 0x201c, 2), (0x95, 0x2022, 1),
    (0x96, 0x2013, 2), (0x98, 0x2dc, 1), (0x99, 0x2122, 1), (0x9a, 0x161, 1), (0x9b, 0x203a, 1),
    (0x9c, 0x153, 1), (0x9e, 0x17e, 1), (0x9f, 0x178, 1), (0xa0, 0xa0, 96)]

/-- The upper half of a set for Greek. -/
def windows1253 : List Run :=
  [(0x80, 0x20ac, 1), (0x82, 0x201a, 1), (0x83, 0x192, 1), (0x84, 0x201e, 1), (0x85, 0x2026, 1),
    (0x86, 0x2020, 2), (0x89, 0x2030, 1), (0x8b, 0x2039, 1), (0x91, 0x2018, 2), (0x93, 0x201c, 2),
    (0x95, 0x2022, 1), (0x96, 0x2013, 2), (0x99, 0x2122, 1), (0x9b, 0x203a, 1), (0xa0, 0xa0, 1),
    (0xa1, 0x385, 2), (0xa3, 0xa3, 7), (0xab, 0xab, 4), (0xaf, 0x2015, 1), (0xb0, 0xb0, 4),
    (0xb4, 0x384, 1), (0xb5, 0xb5, 3), (0xb8, 0x388, 3), (0xbb, 0xbb, 1), (0xbc, 0x38c, 1),
    (0xbd, 0xbd, 1), (0xbe, 0x38e, 20), (0xd3, 0x3a3, 44)]

/-- The upper half of a set for Turkish. -/
def windows1254 : List Run :=
  [(0x80, 0x20ac, 1), (0x82, 0x201a, 1), (0x83, 0x192, 1), (0x84, 0x201e, 1), (0x85, 0x2026, 1),
    (0x86, 0x2020, 2), (0x88, 0x2c6, 1), (0x89, 0x2030, 1), (0x8a, 0x160, 1), (0x8b, 0x2039, 1),
    (0x8c, 0x152, 1), (0x91, 0x2018, 2), (0x93, 0x201c, 2), (0x95, 0x2022, 1), (0x96, 0x2013, 2),
    (0x98, 0x2dc, 1), (0x99, 0x2122, 1), (0x9a, 0x161, 1), (0x9b, 0x203a, 1), (0x9c, 0x153, 1),
    (0x9f, 0x178, 1), (0xa0, 0xa0, 48), (0xd0, 0x11e, 1), (0xd1, 0xd1, 12), (0xdd, 0x130, 1),
    (0xde, 0x15e, 1), (0xdf, 0xdf, 17), (0xf0, 0x11f, 1), (0xf1, 0xf1, 12), (0xfd, 0x131, 1),
    (0xfe, 0x15f, 1), (0xff, 0xff, 1)]

/-- The upper half of a set for Cyrillic in the order of Latin letters. -/
def koi8 : List Run :=
  [(0x80, 0x2500, 1), (0x81, 0x2502, 1), (0x82, 0x250c, 1), (0x83, 0x2510, 1), (0x84, 0x2514, 1),
    (0x85, 0x2518, 1), (0x86, 0x251c, 1), (0x87, 0x2524, 1), (0x88, 0x252c, 1), (0x89, 0x2534, 1),
    (0x8a, 0x253c, 1), (0x8b, 0x2580, 1), (0x8c, 0x2584, 1), (0x8d, 0x2588, 1), (0x8e, 0x258c, 1),
    (0x8f, 0x2590, 4), (0x93, 0x2320, 1), (0x94, 0x25a0, 1), (0x95, 0x2219, 2), (0x97, 0x2248, 1),
    (0x98, 0x2264, 2), (0x9a, 0xa0, 1), (0x9b, 0x2321, 1), (0x9c, 0xb0, 1), (0x9d, 0xb2, 1),
    (0x9e, 0xb7, 1), (0x9f, 0xf7, 1), (0xa0, 0x2550, 3), (0xa3, 0x451, 1), (0xa4, 0x2553, 15),
    (0xb3, 0x401, 1), (0xb4, 0x2562, 11), (0xbf, 0xa9, 1), (0xc0, 0x44e, 1), (0xc1, 0x430, 2),
    (0xc3, 0x446, 1), (0xc4, 0x434, 2), (0xc6, 0x444, 1), (0xc7, 0x433, 1), (0xc8, 0x445, 1),
    (0xc9, 0x438, 8), (0xd1, 0x44f, 1), (0xd2, 0x440, 4), (0xd6, 0x436, 1), (0xd7, 0x432, 1),
    (0xd8, 0x44c, 1), (0xd9, 0x44b, 1), (0xda, 0x437, 1), (0xdb, 0x448, 1), (0xdc, 0x44d, 1),
    (0xdd, 0x449, 1), (0xde, 0x447, 1), (0xdf, 0x44a, 1), (0xe0, 0x42e, 1), (0xe1, 0x410, 2),
    (0xe3, 0x426, 1), (0xe4, 0x414, 2), (0xe6, 0x424, 1), (0xe7, 0x413, 1), (0xe8, 0x425, 1),
    (0xe9, 0x418, 8), (0xf1, 0x42f, 1), (0xf2, 0x420, 4), (0xf6, 0x416, 1), (0xf7, 0x412, 1),
    (0xf8, 0x42c, 1), (0xf9, 0x42b, 1), (0xfa, 0x417, 1), (0xfb, 0x428, 1), (0xfc, 0x42d, 1),
    (0xfd, 0x429, 1), (0xfe, 0x427, 1), (0xff, 0x42a, 1)]

/-- The upper half in which every byte is the character of its own number. -/
def latin : List Run := [(0x80, 0x80, 128)]

/-- The upper half of ASCII, which is empty. -/
def ascii : List Run := []

def char? (runs : List Run) (byte : Nat) : Option Char :=
  runs.findSome? fun (first, code, count) =>
    if first ≤ byte && byte < first + count then some (Char.ofNat (code + (byte - first))) else none

/-- The upper halves by the names of the sets in capitals. -/
def byName : List (String × List Run) :=
  [("ASCII", ascii), ("US-ASCII", ascii), ("ANSI_X3.4-1968", ascii), ("ISO-8859-1", latin),
    ("ISO8859-1", latin), ("ISO_8859-1", latin), ("ISO-LATIN-1", latin), ("ISO LATIN 1", latin),
    ("LATIN1", latin), ("L1", latin), ("CP819", latin),
    ("ISO-8859-2", iso8859Part2), ("ISO8859-2", iso8859Part2), ("ISO-LATIN-2", iso8859Part2),
    ("LATIN2", iso8859Part2), ("ISO-8859-5", iso8859Part5), ("ISO-8859-7", iso8859Part7),
    ("ISO-8859-9", iso8859Part9), ("LATIN5", iso8859Part9), ("ISO-8859-15", iso8859Part15),
    ("LATIN-9", iso8859Part15), ("WINDOWS-1250", windows1250), ("CP1250", windows1250),
    ("WINDOWS-1251", windows1251), ("CP1251", windows1251), ("WINDOWS-1252", windows1252),
    ("CP1252", windows1252), ("WINDOWS-1253", windows1253), ("CP1253", windows1253),
    ("WINDOWS-1254", windows1254), ("CP1254", windows1254), ("KOI8-R", koi8)]

end Intake.Xml.ByteSet
