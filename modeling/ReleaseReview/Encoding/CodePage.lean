/-!
# Code pages

A code page gives a character to each byte. The bytes below 128 are always the ASCII characters; the
others are given in runs: a first byte, its character, and how many bytes in a row stand for
characters in a row. A byte in no run has no character.
-/

namespace ReleaseReview.Encoding

/-- A run of bytes that stand for characters in a row. -/
structure Run where
  byte : Nat
  code : Nat
  count : Nat

/-- A code page: the runs of its upper half. -/
abbrev CodePage := List Run

/-- The character of a byte on a page. -/
def CodePage.char? (page : CodePage) (byte : Nat) : Option Char :=
  if byte < 0x80 then some (Char.ofNat byte)
  else
    (page.find? fun r => decide (r.byte ≤ byte) && decide (byte < r.byte + r.count)).map fun r =>
      Char.ofNat (r.code + (byte - r.byte))

/-- The ASCII characters. -/
def ascii : CodePage := []

/-- The code page for Western Europe (ISO 8859-1). -/
def isoWestern : CodePage :=
  [⟨0x80, 0x80, 128⟩]

/-- The code page for Central Europe (ISO 8859-2). -/
def isoCentral : CodePage :=
  [⟨0x80, 0x80, 33⟩, ⟨0xa1, 0x104, 1⟩, ⟨0xa2, 0x2d8, 1⟩, ⟨0xa3, 0x141, 1⟩, ⟨0xa4, 0xa4, 1⟩,
   ⟨0xa5, 0x13d, 1⟩, ⟨0xa6, 0x15a, 1⟩, ⟨0xa7, 0xa7, 2⟩, ⟨0xa9, 0x160, 1⟩, ⟨0xaa, 0x15e, 1⟩,
   ⟨0xab, 0x164, 1⟩, ⟨0xac, 0x179, 1⟩, ⟨0xad, 0xad, 1⟩, ⟨0xae, 0x17d, 1⟩, ⟨0xaf, 0x17b, 1⟩,
   ⟨0xb0, 0xb0, 1⟩, ⟨0xb1, 0x105, 1⟩, ⟨0xb2, 0x2db, 1⟩, ⟨0xb3, 0x142, 1⟩, ⟨0xb4, 0xb4, 1⟩,
   ⟨0xb5, 0x13e, 1⟩, ⟨0xb6, 0x15b, 1⟩, ⟨0xb7, 0x2c7, 1⟩, ⟨0xb8, 0xb8, 1⟩, ⟨0xb9, 0x161, 1⟩,
   ⟨0xba, 0x15f, 1⟩, ⟨0xbb, 0x165, 1⟩, ⟨0xbc, 0x17a, 1⟩, ⟨0xbd, 0x2dd, 1⟩, ⟨0xbe, 0x17e, 1⟩,
   ⟨0xbf, 0x17c, 1⟩, ⟨0xc0, 0x154, 1⟩, ⟨0xc1, 0xc1, 2⟩, ⟨0xc3, 0x102, 1⟩, ⟨0xc4, 0xc4, 1⟩,
   ⟨0xc5, 0x139, 1⟩, ⟨0xc6, 0x106, 1⟩, ⟨0xc7, 0xc7, 1⟩, ⟨0xc8, 0x10c, 1⟩, ⟨0xc9, 0xc9, 1⟩,
   ⟨0xca, 0x118, 1⟩, ⟨0xcb, 0xcb, 1⟩, ⟨0xcc, 0x11a, 1⟩, ⟨0xcd, 0xcd, 2⟩, ⟨0xcf, 0x10e, 1⟩,
   ⟨0xd0, 0x110, 1⟩, ⟨0xd1, 0x143, 1⟩, ⟨0xd2, 0x147, 1⟩, ⟨0xd3, 0xd3, 2⟩, ⟨0xd5, 0x150, 1⟩,
   ⟨0xd6, 0xd6, 2⟩, ⟨0xd8, 0x158, 1⟩, ⟨0xd9, 0x16e, 1⟩, ⟨0xda, 0xda, 1⟩, ⟨0xdb, 0x170, 1⟩,
   ⟨0xdc, 0xdc, 2⟩, ⟨0xde, 0x162, 1⟩, ⟨0xdf, 0xdf, 1⟩, ⟨0xe0, 0x155, 1⟩, ⟨0xe1, 0xe1, 2⟩,
   ⟨0xe3, 0x103, 1⟩, ⟨0xe4, 0xe4, 1⟩, ⟨0xe5, 0x13a, 1⟩, ⟨0xe6, 0x107, 1⟩, ⟨0xe7, 0xe7, 1⟩,
   ⟨0xe8, 0x10d, 1⟩, ⟨0xe9, 0xe9, 1⟩, ⟨0xea, 0x119, 1⟩, ⟨0xeb, 0xeb, 1⟩, ⟨0xec, 0x11b, 1⟩,
   ⟨0xed, 0xed, 2⟩, ⟨0xef, 0x10f, 1⟩, ⟨0xf0, 0x111, 1⟩, ⟨0xf1, 0x144, 1⟩, ⟨0xf2, 0x148, 1⟩,
   ⟨0xf3, 0xf3, 2⟩, ⟨0xf5, 0x151, 1⟩, ⟨0xf6, 0xf6, 2⟩, ⟨0xf8, 0x159, 1⟩, ⟨0xf9, 0x16f, 1⟩,
   ⟨0xfa, 0xfa, 1⟩, ⟨0xfb, 0x171, 1⟩, ⟨0xfc, 0xfc, 2⟩, ⟨0xfe, 0x163, 1⟩, ⟨0xff, 0x2d9, 1⟩]

/-- The code page for Southern Europe (ISO 8859-3). -/
def isoSouth : CodePage :=
  [⟨0x80, 0x80, 33⟩, ⟨0xa1, 0x126, 1⟩, ⟨0xa2, 0x2d8, 1⟩, ⟨0xa3, 0xa3, 2⟩, ⟨0xa6, 0x124, 1⟩,
   ⟨0xa7, 0xa7, 2⟩, ⟨0xa9, 0x130, 1⟩, ⟨0xaa, 0x15e, 1⟩, ⟨0xab, 0x11e, 1⟩, ⟨0xac, 0x134, 1⟩,
   ⟨0xad, 0xad, 1⟩, ⟨0xaf, 0x17b, 1⟩, ⟨0xb0, 0xb0, 1⟩, ⟨0xb1, 0x127, 1⟩, ⟨0xb2, 0xb2, 4⟩,
   ⟨0xb6, 0x125, 1⟩, ⟨0xb7, 0xb7, 2⟩, ⟨0xb9, 0x131, 1⟩, ⟨0xba, 0x15f, 1⟩, ⟨0xbb, 0x11f, 1⟩,
   ⟨0xbc, 0x135, 1⟩, ⟨0xbd, 0xbd, 1⟩, ⟨0xbf, 0x17c, 1⟩, ⟨0xc0, 0xc0, 3⟩, ⟨0xc4, 0xc4, 1⟩,
   ⟨0xc5, 0x10a, 1⟩, ⟨0xc6, 0x108, 1⟩, ⟨0xc7, 0xc7, 9⟩, ⟨0xd1, 0xd1, 4⟩, ⟨0xd5, 0x120, 1⟩,
   ⟨0xd6, 0xd6, 2⟩, ⟨0xd8, 0x11c, 1⟩, ⟨0xd9, 0xd9, 4⟩, ⟨0xdd, 0x16c, 1⟩, ⟨0xde, 0x15c, 1⟩,
   ⟨0xdf, 0xdf, 4⟩, ⟨0xe4, 0xe4, 1⟩, ⟨0xe5, 0x10b, 1⟩, ⟨0xe6, 0x109, 1⟩, ⟨0xe7, 0xe7, 9⟩,
   ⟨0xf1, 0xf1, 4⟩, ⟨0xf5, 0x121, 1⟩, ⟨0xf6, 0xf6, 2⟩, ⟨0xf8, 0x11d, 1⟩, ⟨0xf9, 0xf9, 4⟩,
   ⟨0xfd, 0x16d, 1⟩, ⟨0xfe, 0x15d, 1⟩, ⟨0xff, 0x2d9, 1⟩]

/-- The code page for Northern Europe (ISO 8859-4). -/
def isoNorth : CodePage :=
  [⟨0x80, 0x80, 33⟩, ⟨0xa1, 0x104, 1⟩, ⟨0xa2, 0x138, 1⟩, ⟨0xa3, 0x156, 1⟩, ⟨0xa4, 0xa4, 1⟩,
   ⟨0xa5, 0x128, 1⟩, ⟨0xa6, 0x13b, 1⟩, ⟨0xa7, 0xa7, 2⟩, ⟨0xa9, 0x160, 1⟩, ⟨0xaa, 0x112, 1⟩,
   ⟨0xab, 0x122, 1⟩, ⟨0xac, 0x166, 1⟩, ⟨0xad, 0xad, 1⟩, ⟨0xae, 0x17d, 1⟩, ⟨0xaf, 0xaf, 2⟩,
   ⟨0xb1, 0x105, 1⟩, ⟨0xb2, 0x2db, 1⟩, ⟨0xb3, 0x157, 1⟩, ⟨0xb4, 0xb4, 1⟩, ⟨0xb5, 0x129, 1⟩,
   ⟨0xb6, 0x13c, 1⟩, ⟨0xb7, 0x2c7, 1⟩, ⟨0xb8, 0xb8, 1⟩, ⟨0xb9, 0x161, 1⟩, ⟨0xba, 0x113, 1⟩,
   ⟨0xbb, 0x123, 1⟩, ⟨0xbc, 0x167, 1⟩, ⟨0xbd, 0x14a, 1⟩, ⟨0xbe, 0x17e, 1⟩, ⟨0xbf, 0x14b, 1⟩,
   ⟨0xc0, 0x100, 1⟩, ⟨0xc1, 0xc1, 6⟩, ⟨0xc7, 0x12e, 1⟩, ⟨0xc8, 0x10c, 1⟩, ⟨0xc9, 0xc9, 1⟩,
   ⟨0xca, 0x118, 1⟩, ⟨0xcb, 0xcb, 1⟩, ⟨0xcc, 0x116, 1⟩, ⟨0xcd, 0xcd, 2⟩, ⟨0xcf, 0x12a, 1⟩,
   ⟨0xd0, 0x110, 1⟩, ⟨0xd1, 0x145, 1⟩, ⟨0xd2, 0x14c, 1⟩, ⟨0xd3, 0x136, 1⟩, ⟨0xd4, 0xd4, 5⟩,
   ⟨0xd9, 0x172, 1⟩, ⟨0xda, 0xda, 3⟩, ⟨0xdd, 0x168, 1⟩, ⟨0xde, 0x16a, 1⟩, ⟨0xdf, 0xdf, 1⟩,
   ⟨0xe0, 0x101, 1⟩, ⟨0xe1, 0xe1, 6⟩, ⟨0xe7, 0x12f, 1⟩, ⟨0xe8, 0x10d, 1⟩, ⟨0xe9, 0xe9, 1⟩,
   ⟨0xea, 0x119, 1⟩, ⟨0xeb, 0xeb, 1⟩, ⟨0xec, 0x117, 1⟩, ⟨0xed, 0xed, 2⟩, ⟨0xef, 0x12b, 1⟩,
   ⟨0xf0, 0x111, 1⟩, ⟨0xf1, 0x146, 1⟩, ⟨0xf2, 0x14d, 1⟩, ⟨0xf3, 0x137, 1⟩, ⟨0xf4, 0xf4, 5⟩,
   ⟨0xf9, 0x173, 1⟩, ⟨0xfa, 0xfa, 3⟩, ⟨0xfd, 0x169, 1⟩, ⟨0xfe, 0x16b, 1⟩, ⟨0xff, 0x2d9, 1⟩]

/-- The code page for Cyrillic (ISO 8859-5). -/
def isoCyrillic : CodePage :=
  [⟨0x80, 0x80, 33⟩, ⟨0xa1, 0x401, 12⟩, ⟨0xad, 0xad, 1⟩, ⟨0xae, 0x40e, 66⟩, ⟨0xf0, 0x2116, 1⟩,
   ⟨0xf1, 0x451, 12⟩, ⟨0xfd, 0xa7, 1⟩, ⟨0xfe, 0x45e, 2⟩]

/-- The code page for Arabic (ISO 8859-6). -/
def isoArabic : CodePage :=
  [⟨0x80, 0x80, 33⟩, ⟨0xa4, 0xa4, 1⟩, ⟨0xac, 0x60c, 1⟩, ⟨0xad, 0xad, 1⟩, ⟨0xbb, 0x61b, 1⟩,
   ⟨0xbf, 0x61f, 1⟩, ⟨0xc1, 0x621, 26⟩, ⟨0xe0, 0x640, 19⟩]

/-- The code page for Greek (ISO 8859-7). -/
def isoGreek : CodePage :=
  [⟨0x80, 0x80, 33⟩, ⟨0xa1, 0x2018, 2⟩, ⟨0xa3, 0xa3, 1⟩, ⟨0xa4, 0x20ac, 1⟩, ⟨0xa5, 0x20af, 1⟩,
   ⟨0xa6, 0xa6, 4⟩, ⟨0xaa, 0x37a, 1⟩, ⟨0xab, 0xab, 3⟩, ⟨0xaf, 0x2015, 1⟩, ⟨0xb0, 0xb0, 4⟩,
   ⟨0xb4, 0x384, 3⟩, ⟨0xb7, 0xb7, 1⟩, ⟨0xb8, 0x388, 3⟩, ⟨0xbb, 0xbb, 1⟩, ⟨0xbc, 0x38c, 1⟩,
   ⟨0xbd, 0xbd, 1⟩, ⟨0xbe, 0x38e, 20⟩, ⟨0xd3, 0x3a3, 44⟩]

/-- The code page for Hebrew (ISO 8859-8). -/
def isoHebrew : CodePage :=
  [⟨0x80, 0x80, 33⟩, ⟨0xa2, 0xa2, 8⟩, ⟨0xaa, 0xd7, 1⟩, ⟨0xab, 0xab, 15⟩, ⟨0xba, 0xf7, 1⟩,
   ⟨0xbb, 0xbb, 4⟩, ⟨0xdf, 0x2017, 1⟩, ⟨0xe0, 0x5d0, 27⟩, ⟨0xfd, 0x200e, 2⟩]

/-- The code page for Turkish (ISO 8859-9). -/
def isoTurkish : CodePage :=
  [⟨0x80, 0x80, 80⟩, ⟨0xd0, 0x11e, 1⟩, ⟨0xd1, 0xd1, 12⟩, ⟨0xdd, 0x130, 1⟩, ⟨0xde, 0x15e, 1⟩,
   ⟨0xdf, 0xdf, 17⟩, ⟨0xf0, 0x11f, 1⟩, ⟨0xf1, 0xf1, 12⟩, ⟨0xfd, 0x131, 1⟩, ⟨0xfe, 0x15f, 1⟩,
   ⟨0xff, 0xff, 1⟩]

/-- The code page for the Nordic languages (ISO 8859-10). -/
def isoNordic : CodePage :=
  [⟨0x80, 0x80, 33⟩, ⟨0xa1, 0x104, 1⟩, ⟨0xa2, 0x112, 1⟩, ⟨0xa3, 0x122, 1⟩, ⟨0xa4, 0x12a, 1⟩,
   ⟨0xa5, 0x128, 1⟩, ⟨0xa6, 0x136, 1⟩, ⟨0xa7, 0xa7, 1⟩, ⟨0xa8, 0x13b, 1⟩, ⟨0xa9, 0x110, 1⟩,
   ⟨0xaa, 0x160, 1⟩, ⟨0xab, 0x166, 1⟩, ⟨0xac, 0x17d, 1⟩, ⟨0xad, 0xad, 1⟩, ⟨0xae, 0x16a, 1⟩,
   ⟨0xaf, 0x14a, 1⟩, ⟨0xb0, 0xb0, 1⟩, ⟨0xb1, 0x105, 1⟩, ⟨0xb2, 0x113, 1⟩, ⟨0xb3, 0x123, 1⟩,
   ⟨0xb4, 0x12b, 1⟩, ⟨0xb5, 0x129, 1⟩, ⟨0xb6, 0x137, 1⟩, ⟨0xb7, 0xb7, 1⟩, ⟨0xb8, 0x13c, 1⟩,
   ⟨0xb9, 0x111, 1⟩, ⟨0xba, 0x161, 1⟩, ⟨0xbb, 0x167, 1⟩, ⟨0xbc, 0x17e, 1⟩, ⟨0xbd, 0x2015, 1⟩,
   ⟨0xbe, 0x16b, 1⟩, ⟨0xbf, 0x14b, 1⟩, ⟨0xc0, 0x100, 1⟩, ⟨0xc1, 0xc1, 6⟩, ⟨0xc7, 0x12e, 1⟩,
   ⟨0xc8, 0x10c, 1⟩, ⟨0xc9, 0xc9, 1⟩, ⟨0xca, 0x118, 1⟩, ⟨0xcb, 0xcb, 1⟩, ⟨0xcc, 0x116, 1⟩,
   ⟨0xcd, 0xcd, 4⟩, ⟨0xd1, 0x145, 1⟩, ⟨0xd2, 0x14c, 1⟩, ⟨0xd3, 0xd3, 4⟩, ⟨0xd7, 0x168, 1⟩,
   ⟨0xd8, 0xd8, 1⟩, ⟨0xd9, 0x172, 1⟩, ⟨0xda, 0xda, 6⟩, ⟨0xe0, 0x101, 1⟩, ⟨0xe1, 0xe1, 6⟩,
   ⟨0xe7, 0x12f, 1⟩, ⟨0xe8, 0x10d, 1⟩, ⟨0xe9, 0xe9, 1⟩, ⟨0xea, 0x119, 1⟩, ⟨0xeb, 0xeb, 1⟩,
   ⟨0xec, 0x117, 1⟩, ⟨0xed, 0xed, 4⟩, ⟨0xf1, 0x146, 1⟩, ⟨0xf2, 0x14d, 1⟩, ⟨0xf3, 0xf3, 4⟩,
   ⟨0xf7, 0x169, 1⟩, ⟨0xf8, 0xf8, 1⟩, ⟨0xf9, 0x173, 1⟩, ⟨0xfa, 0xfa, 5⟩, ⟨0xff, 0x138, 1⟩]

/-- The code page for Thai (ISO 8859-11). -/
def isoThai : CodePage :=
  [⟨0x80, 0x80, 33⟩, ⟨0xa1, 0xe01, 58⟩, ⟨0xdf, 0xe3f, 29⟩]

/-- The code page for the Baltic languages (ISO 8859-13). -/
def isoBaltic : CodePage :=
  [⟨0x80, 0x80, 33⟩, ⟨0xa1, 0x201d, 1⟩, ⟨0xa2, 0xa2, 3⟩, ⟨0xa5, 0x201e, 1⟩, ⟨0xa6, 0xa6, 2⟩,
   ⟨0xa8, 0xd8, 1⟩, ⟨0xa9, 0xa9, 1⟩, ⟨0xaa, 0x156, 1⟩, ⟨0xab, 0xab, 4⟩, ⟨0xaf, 0xc6, 1⟩,
   ⟨0xb0, 0xb0, 4⟩, ⟨0xb4, 0x201c, 1⟩, ⟨0xb5, 0xb5, 3⟩, ⟨0xb8, 0xf8, 1⟩, ⟨0xb9, 0xb9, 1⟩,
   ⟨0xba, 0x157, 1⟩, ⟨0xbb, 0xbb, 4⟩, ⟨0xbf, 0xe6, 1⟩, ⟨0xc0, 0x104, 1⟩, ⟨0xc1, 0x12e, 1⟩,
   ⟨0xc2, 0x100, 1⟩, ⟨0xc3, 0x106, 1⟩, ⟨0xc4, 0xc4, 2⟩, ⟨0xc6, 0x118, 1⟩, ⟨0xc7, 0x112, 1⟩,
   ⟨0xc8, 0x10c, 1⟩, ⟨0xc9, 0xc9, 1⟩, ⟨0xca, 0x179, 1⟩, ⟨0xcb, 0x116, 1⟩, ⟨0xcc, 0x122, 1⟩,
   ⟨0xcd, 0x136, 1⟩, ⟨0xce, 0x12a, 1⟩, ⟨0xcf, 0x13b, 1⟩, ⟨0xd0, 0x160, 1⟩, ⟨0xd1, 0x143, 1⟩,
   ⟨0xd2, 0x145, 1⟩, ⟨0xd3, 0xd3, 1⟩, ⟨0xd4, 0x14c, 1⟩, ⟨0xd5, 0xd5, 3⟩, ⟨0xd8, 0x172, 1⟩,
   ⟨0xd9, 0x141, 1⟩, ⟨0xda, 0x15a, 1⟩, ⟨0xdb, 0x16a, 1⟩, ⟨0xdc, 0xdc, 1⟩, ⟨0xdd, 0x17b, 1⟩,
   ⟨0xde, 0x17d, 1⟩, ⟨0xdf, 0xdf, 1⟩, ⟨0xe0, 0x105, 1⟩, ⟨0xe1, 0x12f, 1⟩, ⟨0xe2, 0x101, 1⟩,
   ⟨0xe3, 0x107, 1⟩, ⟨0xe4, 0xe4, 2⟩, ⟨0xe6, 0x119, 1⟩, ⟨0xe7, 0x113, 1⟩, ⟨0xe8, 0x10d, 1⟩,
   ⟨0xe9, 0xe9, 1⟩, ⟨0xea, 0x17a, 1⟩, ⟨0xeb, 0x117, 1⟩, ⟨0xec, 0x123, 1⟩, ⟨0xed, 0x137, 1⟩,
   ⟨0xee, 0x12b, 1⟩, ⟨0xef, 0x13c, 1⟩, ⟨0xf0, 0x161, 1⟩, ⟨0xf1, 0x144, 1⟩, ⟨0xf2, 0x146, 1⟩,
   ⟨0xf3, 0xf3, 1⟩, ⟨0xf4, 0x14d, 1⟩, ⟨0xf5, 0xf5, 3⟩, ⟨0xf8, 0x173, 1⟩, ⟨0xf9, 0x142, 1⟩,
   ⟨0xfa, 0x15b, 1⟩, ⟨0xfb, 0x16b, 1⟩, ⟨0xfc, 0xfc, 1⟩, ⟨0xfd, 0x17c, 1⟩, ⟨0xfe, 0x17e, 1⟩,
   ⟨0xff, 0x2019, 1⟩]

/-- The code page for the Celtic languages (ISO 8859-14). -/
def isoCeltic : CodePage :=
  [⟨0x80, 0x80, 33⟩, ⟨0xa1, 0x1e02, 2⟩, ⟨0xa3, 0xa3, 1⟩, ⟨0xa4, 0x10a, 2⟩, ⟨0xa6, 0x1e0a, 1⟩,
   ⟨0xa7, 0xa7, 1⟩, ⟨0xa8, 0x1e80, 1⟩, ⟨0xa9, 0xa9, 1⟩, ⟨0xaa, 0x1e82, 1⟩, ⟨0xab, 0x1e0b, 1⟩,
   ⟨0xac, 0x1ef2, 1⟩, ⟨0xad, 0xad, 2⟩, ⟨0xaf, 0x178, 1⟩, ⟨0xb0, 0x1e1e, 2⟩, ⟨0xb2, 0x120, 2⟩,
   ⟨0xb4, 0x1e40, 2⟩, ⟨0xb6, 0xb6, 1⟩, ⟨0xb7, 0x1e56, 1⟩, ⟨0xb8, 0x1e81, 1⟩, ⟨0xb9, 0x1e57, 1⟩,
   ⟨0xba, 0x1e83, 1⟩, ⟨0xbb, 0x1e60, 1⟩, ⟨0xbc, 0x1ef3, 1⟩, ⟨0xbd, 0x1e84, 2⟩, ⟨0xbf, 0x1e61, 1⟩,
   ⟨0xc0, 0xc0, 16⟩, ⟨0xd0, 0x174, 1⟩, ⟨0xd1, 0xd1, 6⟩, ⟨0xd7, 0x1e6a, 1⟩, ⟨0xd8, 0xd8, 6⟩,
   ⟨0xde, 0x176, 1⟩, ⟨0xdf, 0xdf, 17⟩, ⟨0xf0, 0x175, 1⟩, ⟨0xf1, 0xf1, 6⟩, ⟨0xf7, 0x1e6b, 1⟩,
   ⟨0xf8, 0xf8, 6⟩, ⟨0xfe, 0x177, 1⟩, ⟨0xff, 0xff, 1⟩]

/-- The code page for Western Europe with the euro sign (ISO 8859-15). -/
def isoEuro : CodePage :=
  [⟨0x80, 0x80, 36⟩, ⟨0xa4, 0x20ac, 1⟩, ⟨0xa5, 0xa5, 1⟩, ⟨0xa6, 0x160, 1⟩, ⟨0xa7, 0xa7, 1⟩,
   ⟨0xa8, 0x161, 1⟩, ⟨0xa9, 0xa9, 11⟩, ⟨0xb4, 0x17d, 1⟩, ⟨0xb5, 0xb5, 3⟩, ⟨0xb8, 0x17e, 1⟩,
   ⟨0xb9, 0xb9, 3⟩, ⟨0xbc, 0x152, 2⟩, ⟨0xbe, 0x178, 1⟩, ⟨0xbf, 0xbf, 65⟩]

/-- The code page for South-Eastern Europe (ISO 8859-16). -/
def isoBalkan : CodePage :=
  [⟨0x80, 0x80, 33⟩, ⟨0xa1, 0x104, 2⟩, ⟨0xa3, 0x141, 1⟩, ⟨0xa4, 0x20ac, 1⟩, ⟨0xa5, 0x201e, 1⟩,
   ⟨0xa6, 0x160, 1⟩, ⟨0xa7, 0xa7, 1⟩, ⟨0xa8, 0x161, 1⟩, ⟨0xa9, 0xa9, 1⟩, ⟨0xaa, 0x218, 1⟩,
   ⟨0xab, 0xab, 1⟩, ⟨0xac, 0x179, 1⟩, ⟨0xad, 0xad, 1⟩, ⟨0xae, 0x17a, 2⟩, ⟨0xb0, 0xb0, 2⟩,
   ⟨0xb2, 0x10c, 1⟩, ⟨0xb3, 0x142, 1⟩, ⟨0xb4, 0x17d, 1⟩, ⟨0xb5, 0x201d, 1⟩, ⟨0xb6, 0xb6, 2⟩,
   ⟨0xb8, 0x17e, 1⟩, ⟨0xb9, 0x10d, 1⟩, ⟨0xba, 0x219, 1⟩, ⟨0xbb, 0xbb, 1⟩, ⟨0xbc, 0x152, 2⟩,
   ⟨0xbe, 0x178, 1⟩, ⟨0xbf, 0x17c, 1⟩, ⟨0xc0, 0xc0, 3⟩, ⟨0xc3, 0x102, 1⟩, ⟨0xc4, 0xc4, 1⟩,
   ⟨0xc5, 0x106, 1⟩, ⟨0xc6, 0xc6, 10⟩, ⟨0xd0, 0x110, 1⟩, ⟨0xd1, 0x143, 1⟩, ⟨0xd2, 0xd2, 3⟩,
   ⟨0xd5, 0x150, 1⟩, ⟨0xd6, 0xd6, 1⟩, ⟨0xd7, 0x15a, 1⟩, ⟨0xd8, 0x170, 1⟩, ⟨0xd9, 0xd9, 4⟩,
   ⟨0xdd, 0x118, 1⟩, ⟨0xde, 0x21a, 1⟩, ⟨0xdf, 0xdf, 4⟩, ⟨0xe3, 0x103, 1⟩, ⟨0xe4, 0xe4, 1⟩,
   ⟨0xe5, 0x107, 1⟩, ⟨0xe6, 0xe6, 10⟩, ⟨0xf0, 0x111, 1⟩, ⟨0xf1, 0x144, 1⟩, ⟨0xf2, 0xf2, 3⟩,
   ⟨0xf5, 0x151, 1⟩, ⟨0xf6, 0xf6, 1⟩, ⟨0xf7, 0x15b, 1⟩, ⟨0xf8, 0x171, 1⟩, ⟨0xf9, 0xf9, 4⟩,
   ⟨0xfd, 0x119, 1⟩, ⟨0xfe, 0x21b, 1⟩, ⟨0xff, 0xff, 1⟩]

/-- The code page for Central Europe (Windows 1250). -/
def windowsCentral : CodePage :=
  [⟨0x80, 0x20ac, 1⟩, ⟨0x82, 0x201a, 1⟩, ⟨0x84, 0x201e, 1⟩, ⟨0x85, 0x2026, 1⟩, ⟨0x86, 0x2020, 2⟩,
   ⟨0x89, 0x2030, 1⟩, ⟨0x8a, 0x160, 1⟩, ⟨0x8b, 0x2039, 1⟩, ⟨0x8c, 0x15a, 1⟩, ⟨0x8d, 0x164, 1⟩,
   ⟨0x8e, 0x17d, 1⟩, ⟨0x8f, 0x179, 1⟩, ⟨0x91, 0x2018, 2⟩, ⟨0x93, 0x201c, 2⟩, ⟨0x95, 0x2022, 1⟩,
   ⟨0x96, 0x2013, 2⟩, ⟨0x99, 0x2122, 1⟩, ⟨0x9a, 0x161, 1⟩, ⟨0x9b, 0x203a, 1⟩, ⟨0x9c, 0x15b, 1⟩,
   ⟨0x9d, 0x165, 1⟩, ⟨0x9e, 0x17e, 1⟩, ⟨0x9f, 0x17a, 1⟩, ⟨0xa0, 0xa0, 1⟩, ⟨0xa1, 0x2c7, 1⟩,
   ⟨0xa2, 0x2d8, 1⟩, ⟨0xa3, 0x141, 1⟩, ⟨0xa4, 0xa4, 1⟩, ⟨0xa5, 0x104, 1⟩, ⟨0xa6, 0xa6, 4⟩,
   ⟨0xaa, 0x15e, 1⟩, ⟨0xab, 0xab, 4⟩, ⟨0xaf, 0x17b, 1⟩, ⟨0xb0, 0xb0, 2⟩, ⟨0xb2, 0x2db, 1⟩,
   ⟨0xb3, 0x142, 1⟩, ⟨0xb4, 0xb4, 5⟩, ⟨0xb9, 0x105, 1⟩, ⟨0xba, 0x15f, 1⟩, ⟨0xbb, 0xbb, 1⟩,
   ⟨0xbc, 0x13d, 1⟩, ⟨0xbd, 0x2dd, 1⟩, ⟨0xbe, 0x13e, 1⟩, ⟨0xbf, 0x17c, 1⟩, ⟨0xc0, 0x154, 1⟩,
   ⟨0xc1, 0xc1, 2⟩, ⟨0xc3, 0x102, 1⟩, ⟨0xc4, 0xc4, 1⟩, ⟨0xc5, 0x139, 1⟩, ⟨0xc6, 0x106, 1⟩,
   ⟨0xc7, 0xc7, 1⟩, ⟨0xc8, 0x10c, 1⟩, ⟨0xc9, 0xc9, 1⟩, ⟨0xca, 0x118, 1⟩, ⟨0xcb, 0xcb, 1⟩,
   ⟨0xcc, 0x11a, 1⟩, ⟨0xcd, 0xcd, 2⟩, ⟨0xcf, 0x10e, 1⟩, ⟨0xd0, 0x110, 1⟩, ⟨0xd1, 0x143, 1⟩,
   ⟨0xd2, 0x147, 1⟩, ⟨0xd3, 0xd3, 2⟩, ⟨0xd5, 0x150, 1⟩, ⟨0xd6, 0xd6, 2⟩, ⟨0xd8, 0x158, 1⟩,
   ⟨0xd9, 0x16e, 1⟩, ⟨0xda, 0xda, 1⟩, ⟨0xdb, 0x170, 1⟩, ⟨0xdc, 0xdc, 2⟩, ⟨0xde, 0x162, 1⟩,
   ⟨0xdf, 0xdf, 1⟩, ⟨0xe0, 0x155, 1⟩, ⟨0xe1, 0xe1, 2⟩, ⟨0xe3, 0x103, 1⟩, ⟨0xe4, 0xe4, 1⟩,
   ⟨0xe5, 0x13a, 1⟩, ⟨0xe6, 0x107, 1⟩, ⟨0xe7, 0xe7, 1⟩, ⟨0xe8, 0x10d, 1⟩, ⟨0xe9, 0xe9, 1⟩,
   ⟨0xea, 0x119, 1⟩, ⟨0xeb, 0xeb, 1⟩, ⟨0xec, 0x11b, 1⟩, ⟨0xed, 0xed, 2⟩, ⟨0xef, 0x10f, 1⟩,
   ⟨0xf0, 0x111, 1⟩, ⟨0xf1, 0x144, 1⟩, ⟨0xf2, 0x148, 1⟩, ⟨0xf3, 0xf3, 2⟩, ⟨0xf5, 0x151, 1⟩,
   ⟨0xf6, 0xf6, 2⟩, ⟨0xf8, 0x159, 1⟩, ⟨0xf9, 0x16f, 1⟩, ⟨0xfa, 0xfa, 1⟩, ⟨0xfb, 0x171, 1⟩,
   ⟨0xfc, 0xfc, 2⟩, ⟨0xfe, 0x163, 1⟩, ⟨0xff, 0x2d9, 1⟩]

/-- The code page for Cyrillic (Windows 1251). -/
def windowsCyrillic : CodePage :=
  [⟨0x80, 0x402, 2⟩, ⟨0x82, 0x201a, 1⟩, ⟨0x83, 0x453, 1⟩, ⟨0x84, 0x201e, 1⟩, ⟨0x85, 0x2026, 1⟩,
   ⟨0x86, 0x2020, 2⟩, ⟨0x88, 0x20ac, 1⟩, ⟨0x89, 0x2030, 1⟩, ⟨0x8a, 0x409, 1⟩, ⟨0x8b, 0x2039, 1⟩,
   ⟨0x8c, 0x40a, 1⟩, ⟨0x8d, 0x40c, 1⟩, ⟨0x8e, 0x40b, 1⟩, ⟨0x8f, 0x40f, 1⟩, ⟨0x90, 0x452, 1⟩,
   ⟨0x91, 0x2018, 2⟩, ⟨0x93, 0x201c, 2⟩, ⟨0x95, 0x2022, 1⟩, ⟨0x96, 0x2013, 2⟩, ⟨0x99, 0x2122, 1⟩,
   ⟨0x9a, 0x459, 1⟩, ⟨0x9b, 0x203a, 1⟩, ⟨0x9c, 0x45a, 1⟩, ⟨0x9d, 0x45c, 1⟩, ⟨0x9e, 0x45b, 1⟩,
   ⟨0x9f, 0x45f, 1⟩, ⟨0xa0, 0xa0, 1⟩, ⟨0xa1, 0x40e, 1⟩, ⟨0xa2, 0x45e, 1⟩, ⟨0xa3, 0x408, 1⟩,
   ⟨0xa4, 0xa4, 1⟩, ⟨0xa5, 0x490, 1⟩, ⟨0xa6, 0xa6, 2⟩, ⟨0xa8, 0x401, 1⟩, ⟨0xa9, 0xa9, 1⟩,
   ⟨0xaa, 0x404, 1⟩, ⟨0xab, 0xab, 4⟩, ⟨0xaf, 0x407, 1⟩, ⟨0xb0, 0xb0, 2⟩, ⟨0xb2, 0x406, 1⟩,
   ⟨0xb3, 0x456, 1⟩, ⟨0xb4, 0x491, 1⟩, ⟨0xb5, 0xb5, 3⟩, ⟨0xb8, 0x451, 1⟩, ⟨0xb9, 0x2116, 1⟩,
   ⟨0xba, 0x454, 1⟩, ⟨0xbb, 0xbb, 1⟩, ⟨0xbc, 0x458, 1⟩, ⟨0xbd, 0x405, 1⟩, ⟨0xbe, 0x455, 1⟩,
   ⟨0xbf, 0x457, 1⟩, ⟨0xc0, 0x410, 64⟩]

/-- The code page for Western Europe (Windows 1252). -/
def windowsWestern : CodePage :=
  [⟨0x80, 0x20ac, 1⟩, ⟨0x82, 0x201a, 1⟩, ⟨0x83, 0x192, 1⟩, ⟨0x84, 0x201e, 1⟩, ⟨0x85, 0x2026, 1⟩,
   ⟨0x86, 0x2020, 2⟩, ⟨0x88, 0x2c6, 1⟩, ⟨0x89, 0x2030, 1⟩, ⟨0x8a, 0x160, 1⟩, ⟨0x8b, 0x2039, 1⟩,
   ⟨0x8c, 0x152, 1⟩, ⟨0x8e, 0x17d, 1⟩, ⟨0x91, 0x2018, 2⟩, ⟨0x93, 0x201c, 2⟩, ⟨0x95, 0x2022, 1⟩,
   ⟨0x96, 0x2013, 2⟩, ⟨0x98, 0x2dc, 1⟩, ⟨0x99, 0x2122, 1⟩, ⟨0x9a, 0x161, 1⟩, ⟨0x9b, 0x203a, 1⟩,
   ⟨0x9c, 0x153, 1⟩, ⟨0x9e, 0x17e, 1⟩, ⟨0x9f, 0x178, 1⟩, ⟨0xa0, 0xa0, 96⟩]

/-- The code page for Greek (Windows 1253). -/
def windowsGreek : CodePage :=
  [⟨0x80, 0x20ac, 1⟩, ⟨0x82, 0x201a, 1⟩, ⟨0x83, 0x192, 1⟩, ⟨0x84, 0x201e, 1⟩, ⟨0x85, 0x2026, 1⟩,
   ⟨0x86, 0x2020, 2⟩, ⟨0x89, 0x2030, 1⟩, ⟨0x8b, 0x2039, 1⟩, ⟨0x91, 0x2018, 2⟩, ⟨0x93, 0x201c, 2⟩,
   ⟨0x95, 0x2022, 1⟩, ⟨0x96, 0x2013, 2⟩, ⟨0x99, 0x2122, 1⟩, ⟨0x9b, 0x203a, 1⟩, ⟨0xa0, 0xa0, 1⟩,
   ⟨0xa1, 0x385, 2⟩, ⟨0xa3, 0xa3, 7⟩, ⟨0xab, 0xab, 4⟩, ⟨0xaf, 0x2015, 1⟩, ⟨0xb0, 0xb0, 4⟩,
   ⟨0xb4, 0x384, 1⟩, ⟨0xb5, 0xb5, 3⟩, ⟨0xb8, 0x388, 3⟩, ⟨0xbb, 0xbb, 1⟩, ⟨0xbc, 0x38c, 1⟩,
   ⟨0xbd, 0xbd, 1⟩, ⟨0xbe, 0x38e, 20⟩, ⟨0xd3, 0x3a3, 44⟩]

/-- The code page for Turkish (Windows 1254). -/
def windowsTurkish : CodePage :=
  [⟨0x80, 0x20ac, 1⟩, ⟨0x82, 0x201a, 1⟩, ⟨0x83, 0x192, 1⟩, ⟨0x84, 0x201e, 1⟩, ⟨0x85, 0x2026, 1⟩,
   ⟨0x86, 0x2020, 2⟩, ⟨0x88, 0x2c6, 1⟩, ⟨0x89, 0x2030, 1⟩, ⟨0x8a, 0x160, 1⟩, ⟨0x8b, 0x2039, 1⟩,
   ⟨0x8c, 0x152, 1⟩, ⟨0x91, 0x2018, 2⟩, ⟨0x93, 0x201c, 2⟩, ⟨0x95, 0x2022, 1⟩, ⟨0x96, 0x2013, 2⟩,
   ⟨0x98, 0x2dc, 1⟩, ⟨0x99, 0x2122, 1⟩, ⟨0x9a, 0x161, 1⟩, ⟨0x9b, 0x203a, 1⟩, ⟨0x9c, 0x153, 1⟩,
   ⟨0x9f, 0x178, 1⟩, ⟨0xa0, 0xa0, 48⟩, ⟨0xd0, 0x11e, 1⟩, ⟨0xd1, 0xd1, 12⟩, ⟨0xdd, 0x130, 1⟩,
   ⟨0xde, 0x15e, 1⟩, ⟨0xdf, 0xdf, 17⟩, ⟨0xf0, 0x11f, 1⟩, ⟨0xf1, 0xf1, 12⟩, ⟨0xfd, 0x131, 1⟩,
   ⟨0xfe, 0x15f, 1⟩, ⟨0xff, 0xff, 1⟩]

/-- The code page for Hebrew (Windows 1255). -/
def windowsHebrew : CodePage :=
  [⟨0x80, 0x20ac, 1⟩, ⟨0x82, 0x201a, 1⟩, ⟨0x83, 0x192, 1⟩, ⟨0x84, 0x201e, 1⟩, ⟨0x85, 0x2026, 1⟩,
   ⟨0x86, 0x2020, 2⟩, ⟨0x88, 0x2c6, 1⟩, ⟨0x89, 0x2030, 1⟩, ⟨0x8b, 0x2039, 1⟩, ⟨0x91, 0x2018, 2⟩,
   ⟨0x93, 0x201c, 2⟩, ⟨0x95, 0x2022, 1⟩, ⟨0x96, 0x2013, 2⟩, ⟨0x98, 0x2dc, 1⟩, ⟨0x99, 0x2122, 1⟩,
   ⟨0x9b, 0x203a, 1⟩, ⟨0xa0, 0xa0, 4⟩, ⟨0xa4, 0x20aa, 1⟩, ⟨0xa5, 0xa5, 5⟩, ⟨0xaa, 0xd7, 1⟩,
   ⟨0xab, 0xab, 15⟩, ⟨0xba, 0xf7, 1⟩, ⟨0xbb, 0xbb, 5⟩, ⟨0xc0, 0x5b0, 10⟩, ⟨0xcb, 0x5bb, 9⟩,
   ⟨0xd4, 0x5f0, 5⟩, ⟨0xe0, 0x5d0, 27⟩, ⟨0xfd, 0x200e, 2⟩]

/-- The code page for Arabic (Windows 1256). -/
def windowsArabic : CodePage :=
  [⟨0x80, 0x20ac, 1⟩, ⟨0x81, 0x67e, 1⟩, ⟨0x82, 0x201a, 1⟩, ⟨0x83, 0x192, 1⟩, ⟨0x84, 0x201e, 1⟩,
   ⟨0x85, 0x2026, 1⟩, ⟨0x86, 0x2020, 2⟩, ⟨0x88, 0x2c6, 1⟩, ⟨0x89, 0x2030, 1⟩, ⟨0x8a, 0x679, 1⟩,
   ⟨0x8b, 0x2039, 1⟩, ⟨0x8c, 0x152, 1⟩, ⟨0x8d, 0x686, 1⟩, ⟨0x8e, 0x698, 1⟩, ⟨0x8f, 0x688, 1⟩,
   ⟨0x90, 0x6af, 1⟩, ⟨0x91, 0x2018, 2⟩, ⟨0x93, 0x201c, 2⟩, ⟨0x95, 0x2022, 1⟩, ⟨0x96, 0x2013, 2⟩,
   ⟨0x98, 0x6a9, 1⟩, ⟨0x99, 0x2122, 1⟩, ⟨0x9a, 0x691, 1⟩, ⟨0x9b, 0x203a, 1⟩, ⟨0x9c, 0x153, 1⟩,
   ⟨0x9d, 0x200c, 2⟩, ⟨0x9f, 0x6ba, 1⟩, ⟨0xa0, 0xa0, 1⟩, ⟨0xa1, 0x60c, 1⟩, ⟨0xa2, 0xa2, 8⟩,
   ⟨0xaa, 0x6be, 1⟩, ⟨0xab, 0xab, 15⟩, ⟨0xba, 0x61b, 1⟩, ⟨0xbb, 0xbb, 4⟩, ⟨0xbf, 0x61f, 1⟩,
   ⟨0xc0, 0x6c1, 1⟩, ⟨0xc1, 0x621, 22⟩, ⟨0xd7, 0xd7, 1⟩, ⟨0xd8, 0x637, 4⟩, ⟨0xdc, 0x640, 4⟩,
   ⟨0xe0, 0xe0, 1⟩, ⟨0xe1, 0x644, 1⟩, ⟨0xe2, 0xe2, 1⟩, ⟨0xe3, 0x645, 4⟩, ⟨0xe7, 0xe7, 5⟩,
   ⟨0xec, 0x649, 2⟩, ⟨0xee, 0xee, 2⟩, ⟨0xf0, 0x64b, 4⟩, ⟨0xf4, 0xf4, 1⟩, ⟨0xf5, 0x64f, 2⟩,
   ⟨0xf7, 0xf7, 1⟩, ⟨0xf8, 0x651, 1⟩, ⟨0xf9, 0xf9, 1⟩, ⟨0xfa, 0x652, 1⟩, ⟨0xfb, 0xfb, 2⟩,
   ⟨0xfd, 0x200e, 2⟩, ⟨0xff, 0x6d2, 1⟩]

/-- The code page for the Baltic languages (Windows 1257). -/
def windowsBaltic : CodePage :=
  [⟨0x80, 0x20ac, 1⟩, ⟨0x82, 0x201a, 1⟩, ⟨0x84, 0x201e, 1⟩, ⟨0x85, 0x2026, 1⟩, ⟨0x86, 0x2020, 2⟩,
   ⟨0x89, 0x2030, 1⟩, ⟨0x8b, 0x2039, 1⟩, ⟨0x8d, 0xa8, 1⟩, ⟨0x8e, 0x2c7, 1⟩, ⟨0x8f, 0xb8, 1⟩,
   ⟨0x91, 0x2018, 2⟩, ⟨0x93, 0x201c, 2⟩, ⟨0x95, 0x2022, 1⟩, ⟨0x96, 0x2013, 2⟩, ⟨0x99, 0x2122, 1⟩,
   ⟨0x9b, 0x203a, 1⟩, ⟨0x9d, 0xaf, 1⟩, ⟨0x9e, 0x2db, 1⟩, ⟨0xa0, 0xa0, 1⟩, ⟨0xa2, 0xa2, 3⟩,
   ⟨0xa6, 0xa6, 2⟩, ⟨0xa8, 0xd8, 1⟩, ⟨0xa9, 0xa9, 1⟩, ⟨0xaa, 0x156, 1⟩, ⟨0xab, 0xab, 4⟩,
   ⟨0xaf, 0xc6, 1⟩, ⟨0xb0, 0xb0, 8⟩, ⟨0xb8, 0xf8, 1⟩, ⟨0xb9, 0xb9, 1⟩, ⟨0xba, 0x157, 1⟩,
   ⟨0xbb, 0xbb, 4⟩, ⟨0xbf, 0xe6, 1⟩, ⟨0xc0, 0x104, 1⟩, ⟨0xc1, 0x12e, 1⟩, ⟨0xc2, 0x100, 1⟩,
   ⟨0xc3, 0x106, 1⟩, ⟨0xc4, 0xc4, 2⟩, ⟨0xc6, 0x118, 1⟩, ⟨0xc7, 0x112, 1⟩, ⟨0xc8, 0x10c, 1⟩,
   ⟨0xc9, 0xc9, 1⟩, ⟨0xca, 0x179, 1⟩, ⟨0xcb, 0x116, 1⟩, ⟨0xcc, 0x122, 1⟩, ⟨0xcd, 0x136, 1⟩,
   ⟨0xce, 0x12a, 1⟩, ⟨0xcf, 0x13b, 1⟩, ⟨0xd0, 0x160, 1⟩, ⟨0xd1, 0x143, 1⟩, ⟨0xd2, 0x145, 1⟩,
   ⟨0xd3, 0xd3, 1⟩, ⟨0xd4, 0x14c, 1⟩, ⟨0xd5, 0xd5, 3⟩, ⟨0xd8, 0x172, 1⟩, ⟨0xd9, 0x141, 1⟩,
   ⟨0xda, 0x15a, 1⟩, ⟨0xdb, 0x16a, 1⟩, ⟨0xdc, 0xdc, 1⟩, ⟨0xdd, 0x17b, 1⟩, ⟨0xde, 0x17d, 1⟩,
   ⟨0xdf, 0xdf, 1⟩, ⟨0xe0, 0x105, 1⟩, ⟨0xe1, 0x12f, 1⟩, ⟨0xe2, 0x101, 1⟩, ⟨0xe3, 0x107, 1⟩,
   ⟨0xe4, 0xe4, 2⟩, ⟨0xe6, 0x119, 1⟩, ⟨0xe7, 0x113, 1⟩, ⟨0xe8, 0x10d, 1⟩, ⟨0xe9, 0xe9, 1⟩,
   ⟨0xea, 0x17a, 1⟩, ⟨0xeb, 0x117, 1⟩, ⟨0xec, 0x123, 1⟩, ⟨0xed, 0x137, 1⟩, ⟨0xee, 0x12b, 1⟩,
   ⟨0xef, 0x13c, 1⟩, ⟨0xf0, 0x161, 1⟩, ⟨0xf1, 0x144, 1⟩, ⟨0xf2, 0x146, 1⟩, ⟨0xf3, 0xf3, 1⟩,
   ⟨0xf4, 0x14d, 1⟩, ⟨0xf5, 0xf5, 3⟩, ⟨0xf8, 0x173, 1⟩, ⟨0xf9, 0x142, 1⟩, ⟨0xfa, 0x15b, 1⟩,
   ⟨0xfb, 0x16b, 1⟩, ⟨0xfc, 0xfc, 1⟩, ⟨0xfd, 0x17c, 1⟩, ⟨0xfe, 0x17e, 1⟩, ⟨0xff, 0x2d9, 1⟩]

/-- The code page for Vietnamese (Windows 1258). -/
def windowsVietnamese : CodePage :=
  [⟨0x80, 0x20ac, 1⟩, ⟨0x82, 0x201a, 1⟩, ⟨0x83, 0x192, 1⟩, ⟨0x84, 0x201e, 1⟩, ⟨0x85, 0x2026, 1⟩,
   ⟨0x86, 0x2020, 2⟩, ⟨0x88, 0x2c6, 1⟩, ⟨0x89, 0x2030, 1⟩, ⟨0x8b, 0x2039, 1⟩, ⟨0x8c, 0x152, 1⟩,
   ⟨0x91, 0x2018, 2⟩, ⟨0x93, 0x201c, 2⟩, ⟨0x95, 0x2022, 1⟩, ⟨0x96, 0x2013, 2⟩, ⟨0x98, 0x2dc, 1⟩,
   ⟨0x99, 0x2122, 1⟩, ⟨0x9b, 0x203a, 1⟩, ⟨0x9c, 0x153, 1⟩, ⟨0x9f, 0x178, 1⟩, ⟨0xa0, 0xa0, 35⟩,
   ⟨0xc3, 0x102, 1⟩, ⟨0xc4, 0xc4, 8⟩, ⟨0xcc, 0x300, 1⟩, ⟨0xcd, 0xcd, 3⟩, ⟨0xd0, 0x110, 1⟩,
   ⟨0xd1, 0xd1, 1⟩, ⟨0xd2, 0x309, 1⟩, ⟨0xd3, 0xd3, 2⟩, ⟨0xd5, 0x1a0, 1⟩, ⟨0xd6, 0xd6, 7⟩,
   ⟨0xdd, 0x1af, 1⟩, ⟨0xde, 0x303, 1⟩, ⟨0xdf, 0xdf, 4⟩, ⟨0xe3, 0x103, 1⟩, ⟨0xe4, 0xe4, 8⟩,
   ⟨0xec, 0x301, 1⟩, ⟨0xed, 0xed, 3⟩, ⟨0xf0, 0x111, 1⟩, ⟨0xf1, 0xf1, 1⟩, ⟨0xf2, 0x323, 1⟩,
   ⟨0xf3, 0xf3, 2⟩, ⟨0xf5, 0x1a1, 1⟩, ⟨0xf6, 0xf6, 7⟩, ⟨0xfd, 0x1b0, 1⟩, ⟨0xfe, 0x20ab, 1⟩,
   ⟨0xff, 0xff, 1⟩]

/-- The code page for Thai (Windows 874). -/
def windowsThai : CodePage :=
  [⟨0x80, 0x20ac, 1⟩, ⟨0x85, 0x2026, 1⟩, ⟨0x91, 0x2018, 2⟩, ⟨0x93, 0x201c, 2⟩, ⟨0x95, 0x2022, 1⟩,
   ⟨0x96, 0x2013, 2⟩, ⟨0xa0, 0xa0, 1⟩, ⟨0xa1, 0xe01, 58⟩, ⟨0xdf, 0xe3f, 29⟩]

/-- The code page for Russian (KOI8-R). -/
def koiRussian : CodePage :=
  [⟨0x80, 0x2500, 1⟩, ⟨0x81, 0x2502, 1⟩, ⟨0x82, 0x250c, 1⟩, ⟨0x83, 0x2510, 1⟩, ⟨0x84, 0x2514, 1⟩,
   ⟨0x85, 0x2518, 1⟩, ⟨0x86, 0x251c, 1⟩, ⟨0x87, 0x2524, 1⟩, ⟨0x88, 0x252c, 1⟩, ⟨0x89, 0x2534, 1⟩,
   ⟨0x8a, 0x253c, 1⟩, ⟨0x8b, 0x2580, 1⟩, ⟨0x8c, 0x2584, 1⟩, ⟨0x8d, 0x2588, 1⟩, ⟨0x8e, 0x258c, 1⟩,
   ⟨0x8f, 0x2590, 4⟩, ⟨0x93, 0x2320, 1⟩, ⟨0x94, 0x25a0, 1⟩, ⟨0x95, 0x2219, 2⟩, ⟨0x97, 0x2248, 1⟩,
   ⟨0x98, 0x2264, 2⟩, ⟨0x9a, 0xa0, 1⟩, ⟨0x9b, 0x2321, 1⟩, ⟨0x9c, 0xb0, 1⟩, ⟨0x9d, 0xb2, 1⟩,
   ⟨0x9e, 0xb7, 1⟩, ⟨0x9f, 0xf7, 1⟩, ⟨0xa0, 0x2550, 3⟩, ⟨0xa3, 0x451, 1⟩, ⟨0xa4, 0x2553, 15⟩,
   ⟨0xb3, 0x401, 1⟩, ⟨0xb4, 0x2562, 11⟩, ⟨0xbf, 0xa9, 1⟩, ⟨0xc0, 0x44e, 1⟩, ⟨0xc1, 0x430, 2⟩,
   ⟨0xc3, 0x446, 1⟩, ⟨0xc4, 0x434, 2⟩, ⟨0xc6, 0x444, 1⟩, ⟨0xc7, 0x433, 1⟩, ⟨0xc8, 0x445, 1⟩,
   ⟨0xc9, 0x438, 8⟩, ⟨0xd1, 0x44f, 1⟩, ⟨0xd2, 0x440, 4⟩, ⟨0xd6, 0x436, 1⟩, ⟨0xd7, 0x432, 1⟩,
   ⟨0xd8, 0x44c, 1⟩, ⟨0xd9, 0x44b, 1⟩, ⟨0xda, 0x437, 1⟩, ⟨0xdb, 0x448, 1⟩, ⟨0xdc, 0x44d, 1⟩,
   ⟨0xdd, 0x449, 1⟩, ⟨0xde, 0x447, 1⟩, ⟨0xdf, 0x44a, 1⟩, ⟨0xe0, 0x42e, 1⟩, ⟨0xe1, 0x410, 2⟩,
   ⟨0xe3, 0x426, 1⟩, ⟨0xe4, 0x414, 2⟩, ⟨0xe6, 0x424, 1⟩, ⟨0xe7, 0x413, 1⟩, ⟨0xe8, 0x425, 1⟩,
   ⟨0xe9, 0x418, 8⟩, ⟨0xf1, 0x42f, 1⟩, ⟨0xf2, 0x420, 4⟩, ⟨0xf6, 0x416, 1⟩, ⟨0xf7, 0x412, 1⟩,
   ⟨0xf8, 0x42c, 1⟩, ⟨0xf9, 0x42b, 1⟩, ⟨0xfa, 0x417, 1⟩, ⟨0xfb, 0x428, 1⟩, ⟨0xfc, 0x42d, 1⟩,
   ⟨0xfd, 0x429, 1⟩, ⟨0xfe, 0x427, 1⟩, ⟨0xff, 0x42a, 1⟩]

/-- The code page for Ukrainian (KOI8-U). -/
def koiUkrainian : CodePage :=
  [⟨0x80, 0x2500, 1⟩, ⟨0x81, 0x2502, 1⟩, ⟨0x82, 0x250c, 1⟩, ⟨0x83, 0x2510, 1⟩, ⟨0x84, 0x2514, 1⟩,
   ⟨0x85, 0x2518, 1⟩, ⟨0x86, 0x251c, 1⟩, ⟨0x87, 0x2524, 1⟩, ⟨0x88, 0x252c, 1⟩, ⟨0x89, 0x2534, 1⟩,
   ⟨0x8a, 0x253c, 1⟩, ⟨0x8b, 0x2580, 1⟩, ⟨0x8c, 0x2584, 1⟩, ⟨0x8d, 0x2588, 1⟩, ⟨0x8e, 0x258c, 1⟩,
   ⟨0x8f, 0x2590, 4⟩, ⟨0x93, 0x2320, 1⟩, ⟨0x94, 0x25a0, 1⟩, ⟨0x95, 0x2219, 2⟩, ⟨0x97, 0x2248, 1⟩,
   ⟨0x98, 0x2264, 2⟩, ⟨0x9a, 0xa0, 1⟩, ⟨0x9b, 0x2321, 1⟩, ⟨0x9c, 0xb0, 1⟩, ⟨0x9d, 0xb2, 1⟩,
   ⟨0x9e, 0xb7, 1⟩, ⟨0x9f, 0xf7, 1⟩, ⟨0xa0, 0x2550, 3⟩, ⟨0xa3, 0x451, 1⟩, ⟨0xa4, 0x454, 1⟩,
   ⟨0xa5, 0x2554, 1⟩, ⟨0xa6, 0x456, 2⟩, ⟨0xa8, 0x2557, 5⟩, ⟨0xad, 0x491, 1⟩, ⟨0xae, 0x255d, 5⟩,
   ⟨0xb3, 0x401, 1⟩, ⟨0xb4, 0x404, 1⟩, ⟨0xb5, 0x2563, 1⟩, ⟨0xb6, 0x406, 2⟩, ⟨0xb8, 0x2566, 5⟩,
   ⟨0xbd, 0x490, 1⟩, ⟨0xbe, 0x256c, 1⟩, ⟨0xbf, 0xa9, 1⟩, ⟨0xc0, 0x44e, 1⟩, ⟨0xc1, 0x430, 2⟩,
   ⟨0xc3, 0x446, 1⟩, ⟨0xc4, 0x434, 2⟩, ⟨0xc6, 0x444, 1⟩, ⟨0xc7, 0x433, 1⟩, ⟨0xc8, 0x445, 1⟩,
   ⟨0xc9, 0x438, 8⟩, ⟨0xd1, 0x44f, 1⟩, ⟨0xd2, 0x440, 4⟩, ⟨0xd6, 0x436, 1⟩, ⟨0xd7, 0x432, 1⟩,
   ⟨0xd8, 0x44c, 1⟩, ⟨0xd9, 0x44b, 1⟩, ⟨0xda, 0x437, 1⟩, ⟨0xdb, 0x448, 1⟩, ⟨0xdc, 0x44d, 1⟩,
   ⟨0xdd, 0x449, 1⟩, ⟨0xde, 0x447, 1⟩, ⟨0xdf, 0x44a, 1⟩, ⟨0xe0, 0x42e, 1⟩, ⟨0xe1, 0x410, 2⟩,
   ⟨0xe3, 0x426, 1⟩, ⟨0xe4, 0x414, 2⟩, ⟨0xe6, 0x424, 1⟩, ⟨0xe7, 0x413, 1⟩, ⟨0xe8, 0x425, 1⟩,
   ⟨0xe9, 0x418, 8⟩, ⟨0xf1, 0x42f, 1⟩, ⟨0xf2, 0x420, 4⟩, ⟨0xf6, 0x416, 1⟩, ⟨0xf7, 0x412, 1⟩,
   ⟨0xf8, 0x42c, 1⟩, ⟨0xf9, 0x42b, 1⟩, ⟨0xfa, 0x417, 1⟩, ⟨0xfb, 0x428, 1⟩, ⟨0xfc, 0x42d, 1⟩,
   ⟨0xfd, 0x429, 1⟩, ⟨0xfe, 0x427, 1⟩, ⟨0xff, 0x42a, 1⟩]

/-- The code page for Western Europe (DOS 850). -/
def dosWestern : CodePage :=
  [⟨0x80, 0xc7, 1⟩, ⟨0x81, 0xfc, 1⟩, ⟨0x82, 0xe9, 1⟩, ⟨0x83, 0xe2, 1⟩, ⟨0x84, 0xe4, 1⟩,
   ⟨0x85, 0xe0, 1⟩, ⟨0x86, 0xe5, 1⟩, ⟨0x87, 0xe7, 1⟩, ⟨0x88, 0xea, 2⟩, ⟨0x8a, 0xe8, 1⟩,
   ⟨0x8b, 0xef, 1⟩, ⟨0x8c, 0xee, 1⟩, ⟨0x8d, 0xec, 1⟩, ⟨0x8e, 0xc4, 2⟩, ⟨0x90, 0xc9, 1⟩,
   ⟨0x91, 0xe6, 1⟩, ⟨0x92, 0xc6, 1⟩, ⟨0x93, 0xf4, 1⟩, ⟨0x94, 0xf6, 1⟩, ⟨0x95, 0xf2, 1⟩,
   ⟨0x96, 0xfb, 1⟩, ⟨0x97, 0xf9, 1⟩, ⟨0x98, 0xff, 1⟩, ⟨0x99, 0xd6, 1⟩, ⟨0x9a, 0xdc, 1⟩,
   ⟨0x9b, 0xf8, 1⟩, ⟨0x9c, 0xa3, 1⟩, ⟨0x9d, 0xd8, 1⟩, ⟨0x9e, 0xd7, 1⟩, ⟨0x9f, 0x192, 1⟩,
   ⟨0xa0, 0xe1, 1⟩, ⟨0xa1, 0xed, 1⟩, ⟨0xa2, 0xf3, 1⟩, ⟨0xa3, 0xfa, 1⟩, ⟨0xa4, 0xf1, 1⟩,
   ⟨0xa5, 0xd1, 1⟩, ⟨0xa6, 0xaa, 1⟩, ⟨0xa7, 0xba, 1⟩, ⟨0xa8, 0xbf, 1⟩, ⟨0xa9, 0xae, 1⟩,
   ⟨0xaa, 0xac, 1⟩, ⟨0xab, 0xbd, 1⟩, ⟨0xac, 0xbc, 1⟩, ⟨0xad, 0xa1, 1⟩, ⟨0xae, 0xab, 1⟩,
   ⟨0xaf, 0xbb, 1⟩, ⟨0xb0, 0x2591, 3⟩, ⟨0xb3, 0x2502, 1⟩, ⟨0xb4, 0x2524, 1⟩, ⟨0xb5, 0xc1, 2⟩,
   ⟨0xb7, 0xc0, 1⟩, ⟨0xb8, 0xa9, 1⟩, ⟨0xb9, 0x2563, 1⟩, ⟨0xba, 0x2551, 1⟩, ⟨0xbb, 0x2557, 1⟩,
   ⟨0xbc, 0x255d, 1⟩, ⟨0xbd, 0xa2, 1⟩, ⟨0xbe, 0xa5, 1⟩, ⟨0xbf, 0x2510, 1⟩, ⟨0xc0, 0x2514, 1⟩,
   ⟨0xc1, 0x2534, 1⟩, ⟨0xc2, 0x252c, 1⟩, ⟨0xc3, 0x251c, 1⟩, ⟨0xc4, 0x2500, 1⟩, ⟨0xc5, 0x253c, 1⟩,
   ⟨0xc6, 0xe3, 1⟩, ⟨0xc7, 0xc3, 1⟩, ⟨0xc8, 0x255a, 1⟩, ⟨0xc9, 0x2554, 1⟩, ⟨0xca, 0x2569, 1⟩,
   ⟨0xcb, 0x2566, 1⟩, ⟨0xcc, 0x2560, 1⟩, ⟨0xcd, 0x2550, 1⟩, ⟨0xce, 0x256c, 1⟩, ⟨0xcf, 0xa4, 1⟩,
   ⟨0xd0, 0xf0, 1⟩, ⟨0xd1, 0xd0, 1⟩, ⟨0xd2, 0xca, 2⟩, ⟨0xd4, 0xc8, 1⟩, ⟨0xd5, 0x131, 1⟩,
   ⟨0xd6, 0xcd, 3⟩, ⟨0xd9, 0x2518, 1⟩, ⟨0xda, 0x250c, 1⟩, ⟨0xdb, 0x2588, 1⟩, ⟨0xdc, 0x2584, 1⟩,
   ⟨0xdd, 0xa6, 1⟩, ⟨0xde, 0xcc, 1⟩, ⟨0xdf, 0x2580, 1⟩, ⟨0xe0, 0xd3, 1⟩, ⟨0xe1, 0xdf, 1⟩,
   ⟨0xe2, 0xd4, 1⟩, ⟨0xe3, 0xd2, 1⟩, ⟨0xe4, 0xf5, 1⟩, ⟨0xe5, 0xd5, 1⟩, ⟨0xe6, 0xb5, 1⟩,
   ⟨0xe7, 0xfe, 1⟩, ⟨0xe8, 0xde, 1⟩, ⟨0xe9, 0xda, 2⟩, ⟨0xeb, 0xd9, 1⟩, ⟨0xec, 0xfd, 1⟩,
   ⟨0xed, 0xdd, 1⟩, ⟨0xee, 0xaf, 1⟩, ⟨0xef, 0xb4, 1⟩, ⟨0xf0, 0xad, 1⟩, ⟨0xf1, 0xb1, 1⟩,
   ⟨0xf2, 0x2017, 1⟩, ⟨0xf3, 0xbe, 1⟩, ⟨0xf4, 0xb6, 1⟩, ⟨0xf5, 0xa7, 1⟩, ⟨0xf6, 0xf7, 1⟩,
   ⟨0xf7, 0xb8, 1⟩, ⟨0xf8, 0xb0, 1⟩, ⟨0xf9, 0xa8, 1⟩, ⟨0xfa, 0xb7, 1⟩, ⟨0xfb, 0xb9, 1⟩,
   ⟨0xfc, 0xb3, 1⟩, ⟨0xfd, 0xb2, 1⟩, ⟨0xfe, 0x25a0, 1⟩, ⟨0xff, 0xa0, 1⟩]

/-- The code page for Cyrillic (DOS 866). -/
def dosCyrillic : CodePage :=
  [⟨0x80, 0x410, 48⟩, ⟨0xb0, 0x2591, 3⟩, ⟨0xb3, 0x2502, 1⟩, ⟨0xb4, 0x2524, 1⟩, ⟨0xb5, 0x2561, 2⟩,
   ⟨0xb7, 0x2556, 1⟩, ⟨0xb8, 0x2555, 1⟩, ⟨0xb9, 0x2563, 1⟩, ⟨0xba, 0x2551, 1⟩, ⟨0xbb, 0x2557, 1⟩,
   ⟨0xbc, 0x255d, 1⟩, ⟨0xbd, 0x255c, 1⟩, ⟨0xbe, 0x255b, 1⟩, ⟨0xbf, 0x2510, 1⟩, ⟨0xc0, 0x2514, 1⟩,
   ⟨0xc1, 0x2534, 1⟩, ⟨0xc2, 0x252c, 1⟩, ⟨0xc3, 0x251c, 1⟩, ⟨0xc4, 0x2500, 1⟩, ⟨0xc5, 0x253c, 1⟩,
   ⟨0xc6, 0x255e, 2⟩, ⟨0xc8, 0x255a, 1⟩, ⟨0xc9, 0x2554, 1⟩, ⟨0xca, 0x2569, 1⟩, ⟨0xcb, 0x2566, 1⟩,
   ⟨0xcc, 0x2560, 1⟩, ⟨0xcd, 0x2550, 1⟩, ⟨0xce, 0x256c, 1⟩, ⟨0xcf, 0x2567, 2⟩, ⟨0xd1, 0x2564, 2⟩,
   ⟨0xd3, 0x2559, 1⟩, ⟨0xd4, 0x2558, 1⟩, ⟨0xd5, 0x2552, 2⟩, ⟨0xd7, 0x256b, 1⟩, ⟨0xd8, 0x256a, 1⟩,
   ⟨0xd9, 0x2518, 1⟩, ⟨0xda, 0x250c, 1⟩, ⟨0xdb, 0x2588, 1⟩, ⟨0xdc, 0x2584, 1⟩, ⟨0xdd, 0x258c, 1⟩,
   ⟨0xde, 0x2590, 1⟩, ⟨0xdf, 0x2580, 1⟩, ⟨0xe0, 0x440, 16⟩, ⟨0xf0, 0x401, 1⟩, ⟨0xf1, 0x451, 1⟩,
   ⟨0xf2, 0x404, 1⟩, ⟨0xf3, 0x454, 1⟩, ⟨0xf4, 0x407, 1⟩, ⟨0xf5, 0x457, 1⟩, ⟨0xf6, 0x40e, 1⟩,
   ⟨0xf7, 0x45e, 1⟩, ⟨0xf8, 0xb0, 1⟩, ⟨0xf9, 0x2219, 1⟩, ⟨0xfa, 0xb7, 1⟩, ⟨0xfb, 0x221a, 1⟩,
   ⟨0xfc, 0x2116, 1⟩, ⟨0xfd, 0xa4, 1⟩, ⟨0xfe, 0x25a0, 1⟩, ⟨0xff, 0xa0, 1⟩]

/-- The code page for Western Europe (Macintosh). -/
def macWestern : CodePage :=
  [⟨0x80, 0xc4, 2⟩, ⟨0x82, 0xc7, 1⟩, ⟨0x83, 0xc9, 1⟩, ⟨0x84, 0xd1, 1⟩, ⟨0x85, 0xd6, 1⟩,
   ⟨0x86, 0xdc, 1⟩, ⟨0x87, 0xe1, 1⟩, ⟨0x88, 0xe0, 1⟩, ⟨0x89, 0xe2, 1⟩, ⟨0x8a, 0xe4, 1⟩,
   ⟨0x8b, 0xe3, 1⟩, ⟨0x8c, 0xe5, 1⟩, ⟨0x8d, 0xe7, 1⟩, ⟨0x8e, 0xe9, 1⟩, ⟨0x8f, 0xe8, 1⟩,
   ⟨0x90, 0xea, 2⟩, ⟨0x92, 0xed, 1⟩, ⟨0x93, 0xec, 1⟩, ⟨0x94, 0xee, 2⟩, ⟨0x96, 0xf1, 1⟩,
   ⟨0x97, 0xf3, 1⟩, ⟨0x98, 0xf2, 1⟩, ⟨0x99, 0xf4, 1⟩, ⟨0x9a, 0xf6, 1⟩, ⟨0x9b, 0xf5, 1⟩,
   ⟨0x9c, 0xfa, 1⟩, ⟨0x9d, 0xf9, 1⟩, ⟨0x9e, 0xfb, 2⟩, ⟨0xa0, 0x2020, 1⟩, ⟨0xa1, 0xb0, 1⟩,
   ⟨0xa2, 0xa2, 2⟩, ⟨0xa4, 0xa7, 1⟩, ⟨0xa5, 0x2022, 1⟩, ⟨0xa6, 0xb6, 1⟩, ⟨0xa7, 0xdf, 1⟩,
   ⟨0xa8, 0xae, 1⟩, ⟨0xa9, 0xa9, 1⟩, ⟨0xaa, 0x2122, 1⟩, ⟨0xab, 0xb4, 1⟩, ⟨0xac, 0xa8, 1⟩,
   ⟨0xad, 0x2260, 1⟩, ⟨0xae, 0xc6, 1⟩, ⟨0xaf, 0xd8, 1⟩, ⟨0xb0, 0x221e, 1⟩, ⟨0xb1, 0xb1, 1⟩,
   ⟨0xb2, 0x2264, 2⟩, ⟨0xb4, 0xa5, 1⟩, ⟨0xb5, 0xb5, 1⟩, ⟨0xb6, 0x2202, 1⟩, ⟨0xb7, 0x2211, 1⟩,
   ⟨0xb8, 0x220f, 1⟩, ⟨0xb9, 0x3c0, 1⟩, ⟨0xba, 0x222b, 1⟩, ⟨0xbb, 0xaa, 1⟩, ⟨0xbc, 0xba, 1⟩,
   ⟨0xbd, 0x3a9, 1⟩, ⟨0xbe, 0xe6, 1⟩, ⟨0xbf, 0xf8, 1⟩, ⟨0xc0, 0xbf, 1⟩, ⟨0xc1, 0xa1, 1⟩,
   ⟨0xc2, 0xac, 1⟩, ⟨0xc3, 0x221a, 1⟩, ⟨0xc4, 0x192, 1⟩, ⟨0xc5, 0x2248, 1⟩, ⟨0xc6, 0x2206, 1⟩,
   ⟨0xc7, 0xab, 1⟩, ⟨0xc8, 0xbb, 1⟩, ⟨0xc9, 0x2026, 1⟩, ⟨0xca, 0xa0, 1⟩, ⟨0xcb, 0xc0, 1⟩,
   ⟨0xcc, 0xc3, 1⟩, ⟨0xcd, 0xd5, 1⟩, ⟨0xce, 0x152, 2⟩, ⟨0xd0, 0x2013, 2⟩, ⟨0xd2, 0x201c, 2⟩,
   ⟨0xd4, 0x2018, 2⟩, ⟨0xd6, 0xf7, 1⟩, ⟨0xd7, 0x25ca, 1⟩, ⟨0xd8, 0xff, 1⟩, ⟨0xd9, 0x178, 1⟩,
   ⟨0xda, 0x2044, 1⟩, ⟨0xdb, 0x20ac, 1⟩, ⟨0xdc, 0x2039, 2⟩, ⟨0xde, 0xfb01, 2⟩, ⟨0xe0, 0x2021, 1⟩,
   ⟨0xe1, 0xb7, 1⟩, ⟨0xe2, 0x201a, 1⟩, ⟨0xe3, 0x201e, 1⟩, ⟨0xe4, 0x2030, 1⟩, ⟨0xe5, 0xc2, 1⟩,
   ⟨0xe6, 0xca, 1⟩, ⟨0xe7, 0xc1, 1⟩, ⟨0xe8, 0xcb, 1⟩, ⟨0xe9, 0xc8, 1⟩, ⟨0xea, 0xcd, 3⟩,
   ⟨0xed, 0xcc, 1⟩, ⟨0xee, 0xd3, 2⟩, ⟨0xf0, 0xf8ff, 1⟩, ⟨0xf1, 0xd2, 1⟩, ⟨0xf2, 0xda, 2⟩,
   ⟨0xf4, 0xd9, 1⟩, ⟨0xf5, 0x131, 1⟩, ⟨0xf6, 0x2c6, 1⟩, ⟨0xf7, 0x2dc, 1⟩, ⟨0xf8, 0xaf, 1⟩,
   ⟨0xf9, 0x2d8, 3⟩, ⟨0xfc, 0xb8, 1⟩, ⟨0xfd, 0x2dd, 1⟩, ⟨0xfe, 0x2db, 1⟩, ⟨0xff, 0x2c7, 1⟩]

end ReleaseReview.Encoding
