import LeagueStandings.Text.CodePoints

/-!
# Composed texts

The same letter can be spelled as one character or as a letter with marks behind it. The composed
form of Unicode (NFC) is one of the spellings: composites are taken apart, the marks behind a letter
are brought into the order of their classes, and everything that has a composite is put together
again. The syllables of Hangul are composed by calculation, all others by a table.
-/

namespace LeagueStandings.Composition

/-- The classes of combining marks; below the first entry the class is zero. -/
def classes : List (Nat × Nat) := CodePoints.values
  "300 E6 15 E8 1 DC 4 E8 1 D8 1 DC 5 CA 2 DC 4 CA 2 DC B 1 5 DC 4 E6 8 F0 1 E6 1 DC 3 E6 3 DC 2 0
1 E6 3 DC 4 E6 1 E8 1 DC 2 E6 1 E9 1 EA 2 E9 1 EA 2 E9 1 E6 D 0 113 E6 5 0 109 DC 1 E6 4 DC 1 E6 3
DE 1 DC 1 E6 6 DC 6 E6 2 DC 1 E6 2 DE 1 E4 1 E6 1 A 1 B 1 C 1 D 1 E 1 F 1 10 1 11 1 12 1 13 2 14 1
15 1 16 1 0 1 17 1 0 1 18 1 19 1 0 1 E6 1 DC 1 0 1 12 1 0 48 E6 8 1E 1 1F 1 20 1 0 30 1B 1 1C 1 1D
1 1E 1 1F 1 20 1 21 1 22 1 E6 2 DC 2 E6 5 DC 1 E6 2 DC 1 0 10 23 1 0 65 E6 7 0 2 E6 4 DC 1 E6 1 0
2 E6 2 0 1 DC 1 E6 2 DC 1 0 23 24 1 0 1E E6 1 DC 1 E6 2 DC 1 E6 2 DC 3 E6 1 DC 2 E6 1 DC 1 E6 3 DC
1 E6 1 DC 1 E6 1 DC 1 E6 1 DC 1 E6 2 0 A0 E6 7 DC 1 E6 1 0 9 DC 1 0 18 E6 4 0 1 E6 9 0 1 E6 3 0 1
E6 5 0 2B DC 3 0 3B E6 2 DC 3 E6 4 0 2A E6 5 DC 5 E6 E 0 1 DC 1 E6 2 DC 1 E6 2 DC 1 E6 3 DC 3 1B 1
1C 1 1D 1 E6 3 DC 1 E6 2 DC 2 E6 5 0 3C 7 1 0 10 9 1 0 3 E6 1 DC 1 E6 2 0 67 7 1 0 10 9 1 0 30 E6
1 0 3D 7 1 0 10 9 1 0 6E 7 1 0 10 9 1 0 6E 7 1 0 10 9 1 0 7F 9 1 0 6E 7 1 0 10 9 1 0 7 54 1 5B 1 0
65 7 1 0 10 9 1 0 6D 9 2 0 10 9 1 0 7C 9 1 0 6D 67 2 9 1 0 D 6B 4 0 6C 76 2 9 1 0 D 7A 4 0 4C DC 2
0 1B DC 1 0 1 DC 1 0 1 D8 1 0 37 81 1 82 1 0 1 84 1 0 5 82 4 0 2 82 1 0 1 E6 2 9 1 0 1 E6 2 0 3E
DC 1 0 70 7 1 0 1 9 2 0 52 DC 1 0 2CF E6 3 0 3B4 9 2 0 1E 9 1 0 9D 9 1 0 A E6 1 0 CB E4 1 0 8F DE
1 E6 1 DC 1 0 DB E6 1 DC 1 0 47 9 1 0 14 E6 8 0 2 DC 1 0 30 E6 5 DC 6 E6 2 DC 1 0 1 DC 2 E6 2 DC 2
E6 5 DC 1 E6 12 DC 1 0 2 E6 6 DC 1 E6 4 EA 1 0 48 7 1 0 F 9 1 0 26 E6 1 DC 1 E6 7 0 36 9 2 0 3A 7
1 0 B 9 2 0 43 7 1 0 98 E6 3 0 1 1 1 DC 5 E6 2 DC 4 E6 1 0 1 1 7 0 4 DC 1 0 6 E6 1 0 3 E6 2 0 C6
E6 2 DC 1 E6 7 DC 1 E6 2 EA 1 D6 1 DC 1 CA 1 E6 25 E8 1 E4 2 DC 1 DA 1 E6 1 E9 1 DC 1 E6 1 DC 1 0
2D0 E6 2 1 2 E6 4 1 3 E6 2 0 4 E6 1 0 3 1 2 E6 1 DC 1 E6 1 1 2 DC 4 E6 1 0 BFE E6 3 0 8D 9 1 0 60
E6 20 0 22A DA 1 E4 1 E8 1 DE 1 E0 2 0 69 8 2 0 75D4 E6 1 0 4 E6 A 0 20 E6 2 0 50 E6 2 0 114 9 1 0
25 9 1 0 97 9 1 0 1B E6 12 0 39 DC 3 0 25 9 1 0 5F 7 1 0 C 9 1 0 EF E6 1 0 1 E6 2 DC 1 0 2 E6 2 0
5 E6 2 0 1 E6 1 0 34 9 1 0 F6 9 1 0 4F30 1A 1 0 301 E6 7 DC 7 E6 2 0 3CD DC 1 0 E2 DC 1 0 95 E6 5
0 692 DC 1 0 1 E6 1 0 28 E6 1 1 1 DC 1 0 4 9 1 0 A5 E6 1 DC 1 0 23D E6 4 0 41 E6 5 0 13D E6 2 0 4D
DC 2 0 1 DC 3 0 46 DC 2 E6 3 DC 1 E6 1 DC 4 0 31 E6 1 DC 1 E6 1 DC 1 0 C0 9 1 0 29 9 1 0 E 9 1 0
39 9 1 7 1 0 45 E6 3 0 30 9 2 0 3E 7 1 0 4C 9 1 0 9 7 1 0 6A 9 1 7 1 0 B2 7 1 9 1 0 50 7 2 0 10 9
1 0 18 E6 7 0 3 E6 5 0 59 9 3 0 71 9 1 0 3 7 1 0 17 E6 1 0 63 9 1 7 1 0 FB 9 1 7 1 0 7E 9 1 0 76 9
1 7 1 0 73 9 1 0 10D 9 1 7 1 0 102 9 2 0 4 7 1 0 9C 9 1 0 53 9 1 0 12 9 1 0 51 9 1 0 1A5 9 1 0 102
7 1 0 1 9 2 0 51 9 1 0 1A9 9 2 0 41EC 9 1 0 9C0 1 5 0 3B E6 7 0 4B9 6 2 0 4CAC 1 1 0 14C6 D8 2 1 3
0 3 E2 1 D8 5 0 8 DC 8 0 2 E6 5 DC 2 0 1E E6 4 0 94 E6 3 0 DBB E6 7 0 1 E6 11 0 2 E6 7 0 1 E6 2 0
1 E6 5 0 64 E6 1 0 A0 E6 7 0 177 E6 1 0 3D E6 4 0 1FC E8 2 DC 1 E6 1 0 FE E6 1 DC 1 0 F3 E6 1 0 2
E6 1 0 7 E6 2 0 5 E6 1 0 1DA DC 7 0 6D E6 6 7 1 0"

/-- The composites, each with the two characters that it is made of. -/
def composites : List (Nat × Nat × Nat) := go 0 (CodePoints.numbers
  "C0 41 300 1 41 301 1 41 302 1 41 303 1 41 308 1 41 30A 2 43 327 1 45 300 1 45 301 1 45 302 1 45
308 1 49 300 1 49 301 1 49 302 1 49 308 2 4E 303 1 4F 300 1 4F 301 1 4F 302 1 4F 303 1 4F 308 3 55
300 1 55 301 1 55 302 1 55 308 1 59 301 3 61 300 1 61 301 1 61 302 1 61 303 1 61 308 1 61 30A 2 63
327 1 65 300 1 65 301 1 65 302 1 65 308 1 69 300 1 69 301 1 69 302 1 69 308 2 6E 303 1 6F 300 1 6F
301 1 6F 302 1 6F 303 1 6F 308 3 75 300 1 75 301 1 75 302 1 75 308 1 79 301 2 79 308 1 41 304 1 61
304 1 41 306 1 61 306 1 41 328 1 61 328 1 43 301 1 63 301 1 43 302 1 63 302 1 43 307 1 63 307 1 43
30C 1 63 30C 1 44 30C 1 64 30C 3 45 304 1 65 304 1 45 306 1 65 306 1 45 307 1 65 307 1 45 328 1 65
328 1 45 30C 1 65 30C 1 47 302 1 67 302 1 47 306 1 67 306 1 47 307 1 67 307 1 47 327 1 67 327 1 48
302 1 68 302 3 49 303 1 69 303 1 49 304 1 69 304 1 49 306 1 69 306 1 49 328 1 69 328 1 49 307 4 4A
302 1 6A 302 1 4B 327 1 6B 327 2 4C 301 1 6C 301 1 4C 327 1 6C 327 1 4C 30C 1 6C 30C 5 4E 301 1 6E
301 1 4E 327 1 6E 327 1 4E 30C 1 6E 30C 4 4F 304 1 6F 304 1 4F 306 1 6F 306 1 4F 30B 1 6F 30B 3 52
301 1 72 301 1 52 327 1 72 327 1 52 30C 1 72 30C 1 53 301 1 73 301 1 53 302 1 73 302 1 53 327 1 73
327 1 53 30C 1 73 30C 1 54 327 1 74 327 1 54 30C 1 74 30C 3 55 303 1 75 303 1 55 304 1 75 304 1 55
306 1 75 306 1 55 30A 1 75 30A 1 55 30B 1 75 30B 1 55 328 1 75 328 1 57 302 1 77 302 1 59 302 1 79
302 1 59 308 1 5A 301 1 7A 301 1 5A 307 1 7A 307 1 5A 30C 1 7A 30C 22 4F 31B 1 6F 31B E 55 31B 1
75 31B 1D 41 30C 1 61 30C 1 49 30C 1 69 30C 1 4F 30C 1 6F 30C 1 55 30C 1 75 30C 1 DC 304 1 FC 304
1 DC 301 1 FC 301 1 DC 30C 1 FC 30C 1 DC 300 1 FC 300 2 C4 304 1 E4 304 1 226 304 1 227 304 1 C6
304 1 E6 304 3 47 30C 1 67 30C 1 4B 30C 1 6B 30C 1 4F 328 1 6F 328 1 1EA 304 1 1EB 304 1 1B7 30C 1
292 30C 1 6A 30C 4 47 301 1 67 301 3 4E 300 1 6E 300 1 C5 301 1 E5 301 1 C6 301 1 E6 301 1 D8 301
1 F8 301 1 41 30F 1 61 30F 1 41 311 1 61 311 1 45 30F 1 65 30F 1 45 311 1 65 311 1 49 30F 1 69 30F
1 49 311 1 69 311 1 4F 30F 1 6F 30F 1 4F 311 1 6F 311 1 52 30F 1 72 30F 1 52 311 1 72 311 1 55 30F
1 75 30F 1 55 311 1 75 311 1 53 326 1 73 326 1 54 326 1 74 326 3 48 30C 1 68 30C 7 41 307 1 61 307
1 45 327 1 65 327 1 D6 304 1 F6 304 1 D5 304 1 F5 304 1 4F 307 1 6F 307 1 22E 304 1 22F 304 1 59
304 1 79 304 152 A8 301 1 391 301 2 395 301 1 397 301 1 399 301 2 39F 301 2 3A5 301 1 3A9 301 1
3CA 301 1A 399 308 1 3A5 308 1 3B1 301 1 3B5 301 1 3B7 301 1 3B9 301 1 3CB 301 1A 3B9 308 1 3C5
308 1 3BF 301 1 3C5 301 1 3C9 301 5 3D2 301 1 3D2 308 2C 415 300 1 415 308 2 413 301 4 406 308 5
41A 301 1 418 300 1 423 306 B 418 306 20 438 306 17 435 300 1 435 308 2 433 301 4 456 308 5 43A
301 1 438 300 1 443 306 18 474 30F 1 475 30F 4A 416 306 1 436 306 E 410 306 1 430 306 1 410 308 1
430 308 3 415 306 1 435 306 3 4D8 308 1 4D9 308 1 416 308 1 436 308 1 417 308 1 437 308 3 418 304
1 438 304 1 418 308 1 438 308 1 41E 308 1 43E 308 3 4E8 308 1 4E9 308 1 42D 308 1 44D 308 1 423
304 1 443 304 1 423 308 1 443 308 1 423 30B 1 443 30B 1 427 308 1 447 308 3 42B 308 1 44B 308 129
627 653 1 627 654 1 648 654 1 627 655 1 64A 654 9A 6D5 654 2 6C1 654 11 6D2 654 256 928 93C 8 930
93C 3 933 93C 97 9C7 9BE 1 9C7 9D7 17C B47 B56 3 B47 B3E 1 B47 B57 48 B92 BD7 36 BC6 BBE 1 BC7 BBE
1 BC6 BD7 7C C46 C56 78 CBF CD5 7 CC6 CD5 1 CC6 CD6 2 CC6 CC2 1 CCA CD5 7F D46 D3E 1 D47 D3E 1 D46
D57 8E DD9 DCA 2 DD9 DCF 1 DDC DCA 1 DD9 DDF 248 1025 102E AE0 1B05 1B35 2 1B07 1B35 2 1B09 1B35 2
1B0B 1B35 2 1B0D 1B35 4 1B11 1B35 29 1B3A 1B35 2 1B3C 1B35 3 1B3E 1B35 1 1B3F 1B35 2 1B42 1B35 2BD
41 325 1 61 325 1 42 307 1 62 307 1 42 323 1 62 323 1 42 331 1 62 331 1 C7 301 1 E7 301 1 44 307 1
64 307 1 44 323 1 64 323 1 44 331 1 64 331 1 44 327 1 64 327 1 44 32D 1 64 32D 1 112 300 1 113 300
1 112 301 1 113 301 1 45 32D 1 65 32D 1 45 330 1 65 330 1 228 306 1 229 306 1 46 307 1 66 307 1 47
304 1 67 304 1 48 307 1 68 307 1 48 323 1 68 323 1 48 308 1 68 308 1 48 327 1 68 327 1 48 32E 1 68
32E 1 49 330 1 69 330 1 CF 301 1 EF 301 1 4B 301 1 6B 301 1 4B 323 1 6B 323 1 4B 331 1 6B 331 1 4C
323 1 6C 323 1 1E36 304 1 1E37 304 1 4C 331 1 6C 331 1 4C 32D 1 6C 32D 1 4D 301 1 6D 301 1 4D 307
1 6D 307 1 4D 323 1 6D 323 1 4E 307 1 6E 307 1 4E 323 1 6E 323 1 4E 331 1 6E 331 1 4E 32D 1 6E 32D
1 D5 301 1 F5 301 1 D5 308 1 F5 308 1 14C 300 1 14D 300 1 14C 301 1 14D 301 1 50 301 1 70 301 1 50
307 1 70 307 1 52 307 1 72 307 1 52 323 1 72 323 1 1E5A 304 1 1E5B 304 1 52 331 1 72 331 1 53 307
1 73 307 1 53 323 1 73 323 1 15A 307 1 15B 307 1 160 307 1 161 307 1 1E62 307 1 1E63 307 1 54 307
1 74 307 1 54 323 1 74 323 1 54 331 1 74 331 1 54 32D 1 74 32D 1 55 324 1 75 324 1 55 330 1 75 330
1 55 32D 1 75 32D 1 168 301 1 169 301 1 16A 308 1 16B 308 1 56 303 1 76 303 1 56 323 1 76 323 1 57
300 1 77 300 1 57 301 1 77 301 1 57 308 1 77 308 1 57 307 1 77 307 1 57 323 1 77 323 1 58 307 1 78
307 1 58 308 1 78 308 1 59 307 1 79 307 1 5A 302 1 7A 302 1 5A 323 1 7A 323 1 5A 331 1 7A 331 1 68
331 1 74 308 1 77 30A 1 79 30A 2 17F 307 5 41 323 1 61 323 1 41 309 1 61 309 1 C2 301 1 E2 301 1
C2 300 1 E2 300 1 C2 309 1 E2 309 1 C2 303 1 E2 303 1 1EA0 302 1 1EA1 302 1 102 301 1 103 301 1
102 300 1 103 300 1 102 309 1 103 309 1 102 303 1 103 303 1 1EA0 306 1 1EA1 306 1 45 323 1 65 323
1 45 309 1 65 309 1 45 303 1 65 303 1 CA 301 1 EA 301 1 CA 300 1 EA 300 1 CA 309 1 EA 309 1 CA 303
1 EA 303 1 1EB8 302 1 1EB9 302 1 49 309 1 69 309 1 49 323 1 69 323 1 4F 323 1 6F 323 1 4F 309 1 6F
309 1 D4 301 1 F4 301 1 D4 300 1 F4 300 1 D4 309 1 F4 309 1 D4 303 1 F4 303 1 1ECC 302 1 1ECD 302
1 1A0 301 1 1A1 301 1 1A0 300 1 1A1 300 1 1A0 309 1 1A1 309 1 1A0 303 1 1A1 303 1 1A0 323 1 1A1
323 1 55 323 1 75 323 1 55 309 1 75 309 1 1AF 301 1 1B0 301 1 1AF 300 1 1B0 300 1 1AF 309 1 1B0
309 1 1AF 303 1 1B0 303 1 1AF 323 1 1B0 323 1 59 300 1 79 300 1 59 323 1 79 323 1 59 309 1 79 309
1 59 303 1 79 303 7 3B1 313 1 3B1 314 1 1F00 300 1 1F01 300 1 1F00 301 1 1F01 301 1 1F00 342 1
1F01 342 1 391 313 1 391 314 1 1F08 300 1 1F09 300 1 1F08 301 1 1F09 301 1 1F08 342 1 1F09 342 1
3B5 313 1 3B5 314 1 1F10 300 1 1F11 300 1 1F10 301 1 1F11 301 3 395 313 1 395 314 1 1F18 300 1
1F19 300 1 1F18 301 1 1F19 301 3 3B7 313 1 3B7 314 1 1F20 300 1 1F21 300 1 1F20 301 1 1F21 301 1
1F20 342 1 1F21 342 1 397 313 1 397 314 1 1F28 300 1 1F29 300 1 1F28 301 1 1F29 301 1 1F28 342 1
1F29 342 1 3B9 313 1 3B9 314 1 1F30 300 1 1F31 300 1 1F30 301 1 1F31 301 1 1F30 342 1 1F31 342 1
399 313 1 399 314 1 1F38 300 1 1F39 300 1 1F38 301 1 1F39 301 1 1F38 342 1 1F39 342 1 3BF 313 1
3BF 314 1 1F40 300 1 1F41 300 1 1F40 301 1 1F41 301 3 39F 313 1 39F 314 1 1F48 300 1 1F49 300 1
1F48 301 1 1F49 301 3 3C5 313 1 3C5 314 1 1F50 300 1 1F51 300 1 1F50 301 1 1F51 301 1 1F50 342 1
1F51 342 2 3A5 314 2 1F59 300 2 1F59 301 2 1F59 342 1 3C9 313 1 3C9 314 1 1F60 300 1 1F61 300 1
1F60 301 1 1F61 301 1 1F60 342 1 1F61 342 1 3A9 313 1 3A9 314 1 1F68 300 1 1F69 300 1 1F68 301 1
1F69 301 1 1F68 342 1 1F69 342 1 3B1 300 2 3B5 300 2 3B7 300 2 3B9 300 2 3BF 300 2 3C5 300 2 3C9
300 4 1F00 345 1 1F01 345 1 1F02 345 1 1F03 345 1 1F04 345 1 1F05 345 1 1F06 345 1 1F07 345 1 1F08
345 1 1F09 345 1 1F0A 345 1 1F0B 345 1 1F0C 345 1 1F0D 345 1 1F0E 345 1 1F0F 345 1 1F20 345 1 1F21
345 1 1F22 345 1 1F23 345 1 1F24 345 1 1F25 345 1 1F26 345 1 1F27 345 1 1F28 345 1 1F29 345 1 1F2A
345 1 1F2B 345 1 1F2C 345 1 1F2D 345 1 1F2E 345 1 1F2F 345 1 1F60 345 1 1F61 345 1 1F62 345 1 1F63
345 1 1F64 345 1 1F65 345 1 1F66 345 1 1F67 345 1 1F68 345 1 1F69 345 1 1F6A 345 1 1F6B 345 1 1F6C
345 1 1F6D 345 1 1F6E 345 1 1F6F 345 1 3B1 306 1 3B1 304 1 1F70 345 1 3B1 345 1 3AC 345 2 3B1 342
1 1FB6 345 1 391 306 1 391 304 1 391 300 2 391 345 5 A8 342 1 1F74 345 1 3B7 345 1 3AE 345 2 3B7
342 1 1FC6 345 1 395 300 2 397 300 2 397 345 1 1FBF 300 1 1FBF 301 1 1FBF 342 1 3B9 306 1 3B9 304
1 3CA 300 4 3B9 342 1 3CA 342 1 399 306 1 399 304 1 399 300 3 1FFE 300 1 1FFE 301 1 1FFE 342 1 3C5
306 1 3C5 304 1 3CB 300 2 3C1 313 1 3C1 314 1 3C5 342 1 3CB 342 1 3A5 306 1 3A5 304 1 3A5 300 2
3A1 314 1 A8 300 5 1F7C 345 1 3C9 345 1 3CE 345 2 3C9 342 1 1FF6 345 1 39F 300 2 3A9 300 2 3A9 345
19E 2190 338 1 2192 338 13 2194 338 1F 21D0 338 1 21D4 338 1 21D2 338 35 2203 338 5 2208 338 3
220B 338 18 2223 338 2 2225 338 1B 223C 338 3 2243 338 3 2245 338 2 2248 338 17 3D 338 2 2261 338
B 224D 338 1 3C 338 1 3E 338 1 2264 338 1 2265 338 3 2272 338 1 2273 338 3 2276 338 1 2277 338 7
227A 338 1 227B 338 3 2282 338 1 2283 338 3 2286 338 1 2287 338 23 22A2 338 1 22A8 338 1 22A9 338
1 22AB 338 31 227C 338 1 227D 338 1 2291 338 1 2292 338 7 22B2 338 1 22B3 338 1 22B4 338 1 22B5
338 D5F 304B 3099 2 304D 3099 2 304F 3099 2 3051 3099 2 3053 3099 2 3055 3099 2 3057 3099 2 3059
3099 2 305B 3099 2 305D 3099 2 305F 3099 2 3061 3099 3 3064 3099 2 3066 3099 2 3068 3099 7 306F
3099 1 306F 309A 2 3072 3099 1 3072 309A 2 3075 3099 1 3075 309A 2 3078 3099 1 3078 309A 2 307B
3099 1 307B 309A 17 3046 3099 A 309D 3099 E 30AB 3099 2 30AD 3099 2 30AF 3099 2 30B1 3099 2 30B3
3099 2 30B5 3099 2 30B7 3099 2 30B9 3099 2 30BB 3099 2 30BD 3099 2 30BF 3099 2 30C1 3099 3 30C4
3099 2 30C6 3099 2 30C8 3099 7 30CF 3099 1 30CF 309A 2 30D2 3099 1 30D2 309A 2 30D5 3099 1 30D5
309A 2 30D8 3099 1 30D8 309A 2 30DB 3099 1 30DB 309A 17 30A6 3099 3 30EF 3099 1 30F0 3099 1 30F1
3099 1 30F2 3099 4 30FD 3099 D4CB 105D2 307 1B 105DA 307 AB6 11099 110BA 2 1109B 110BA F 110A5
110BA 83 11131 11127 1 11132 11127 21C 11347 1133E 1 11347 11357 37 11382 113C9 2 11384 113BB 9
1138B 113C2 3 11390 113C9 34 113C2 113C2 2 113C2 113B8 1 113C2 113C9 F3 114B9 114BA 1 114B9 114B0
2 114B9 114BD FC 115B8 115AF 1 115B9 115AF 37D 11935 11930 47E9 1611E 1611E 1 1611E 16129 1 1611E
1611F 1 16129 1611F 1 1611E 16120 1 16121 1611F 1 16122 1611F 1 16121 16120 C40 16D67 16D67 1
16D63 16D67 1 16D69 16D67")
where
  /-- The entries after a code point. -/
  go (before : Nat) : List Nat → List (Nat × Nat × Nat)
    | gap :: first :: second :: rest =>
      (before + gap, first, second) :: go (before + gap) rest
    | _ => []

/-- The class of a character; letters have the class zero. -/
def classOf (n : Nat) : Nat := if n < 0x300 then 0 else CodePoints.valueAt 0 classes n

/-- The character is a syllable of Hangul. -/
def isSyllable (n : Nat) : Bool := 0xAC00 ≤ n && n < 0xAC00 + 11172

/-- Takes a composite apart, so that at most `depth` composites are nested in it. -/
def takeApart : (depth : Nat) → Nat → List Nat
  | 0, n => [n]
  | depth + 1, n =>
    if isSyllable n then
      let index := n - 0xAC00
      let jamo := [0x1100 + index / 588, 0x1161 + index % 588 / 28]
      if index % 28 = 0 then jamo else jamo ++ [0x11A7 + index % 28]
    else match composites.find? (·.1 == n) with
      | some (_, first, second) =>
        (if first < 0xC0 then [first] else takeApart depth first) ++ [second]
      | none => [n]

/-- The characters that a character is composed of. There are no composites below `À`. -/
def decompose (n : Nat) : List Nat := if n < 0xC0 then [n] else takeApart 4 n

/-- Puts a mark behind those of its class and lower ones. -/
def insertMark (mark : Nat) : List Nat → List Nat
  | [] => [mark]
  | other :: rest =>
    if classOf mark < classOf other then mark :: other :: rest
    else other :: insertMark mark rest

/-- Brings the marks behind each letter into the order of their classes, where `marks` are those
that stand before the rest. -/
def order (marks : List Nat) : List Nat → List Nat
  | [] => marks
  | n :: rest =>
    if classOf n = 0 then marks ++ n :: order [] rest
    else order (insertMark n marks) rest

/-- The composite of two characters, if there is one. The first character that has composites
is `<`, and the first that completes one is a mark. -/
def pair? (first second : Nat) : Option Nat :=
  if first < 0x3C ∨ second < 0x300 then none
  else if 0x1100 ≤ first ∧ first < 0x1113 ∧ 0x1161 ≤ second ∧ second < 0x1176 then
    some (0xAC00 + ((first - 0x1100) * 21 + (second - 0x1161)) * 28)
  else if isSyllable first && (first - 0xAC00) % 28 == 0 && 0x11A7 < second && second < 0x11C3 then
    some (first + (second - 0x11A7))
  else (composites.find? fun entry ↦ entry.2.1 == first && entry.2.2 == second).map (·.1)

/-- Puts a letter together with what follows it, where `between`, last first, are the marks that had
no composite with it. A mark is kept apart from the letter by one of its class or a higher one. -/
def join (letter : Nat) (between : List Nat) : List Nat → List Nat
  | [] => letter :: between.reverse
  | n :: rest =>
    let free :=
      match between with
      | [] => true
      | last :: _ => classOf last < classOf n
    match if free then pair? letter n else none with
    | some composite => join composite between rest
    | none =>
      if classOf n = 0 then letter :: between.reverse ++ join n [] rest
      else join letter (n :: between) rest

/-- The composed form of code points. -/
def compose (ns : List Nat) : List Nat :=
  let ordered := order [] (ns.flatMap decompose)
  let marks := ordered.takeWhile (classOf · != 0)
  match ordered.dropWhile (classOf · != 0) with
  | [] => marks
  | letter :: rest => marks ++ join letter [] rest

end LeagueStandings.Composition
