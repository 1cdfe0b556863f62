import LeagueStandings.Text.Composition
import LeagueStandings.Url.DomainMapping
import LeagueStandings.Url.Punycode

/-!
# The labels of domain names

A label beyond ASCII must be readable: it may not be too long or begin with a mark, the invisible
joiners may stand only where they change the shape of a script, and in a name with letters that run
from right to left the two directions may not be mixed within a label.
-/

namespace LeagueStandings.DomainLabel

/-- Where the combining marks begin and end. -/
def markBoundaries : List Nat := CodePoints.boundaries
  "300 70 113 7 107 2D 1 1 1 2 1 2 1 1 48 B 30 15 10 1 65 7 2 6 2 2 1 4 23 1 1E 1B 5B B 3A 9 9 1
18 4 1 9 1 3 1 5 2B 3 3B 9 2A 18 1 21 36 3 1 12 1 7 A 2 1D 3 38 1 1 7 2 2 2 3 9 1 A 2 1A 1 2 3 38
1 1 5 4 2 2 3 3 1 1E 2 3 1 B 3 38 1 1 8 1 3 1 3 14 2 16 6 1 3 38 1 1 7 2 2 2 3 7 3 A 2 1E 1 3B 5 3
3 1 4 9 1 28 5 37 1 1 7 1 3 1 4 7 2 B 2 1D 3 38 1 1 7 1 3 1 4 7 2 B 2 F 1 C 4 37 2 1 7 1 3 1 4 9 1
A 2 1D 3 46 1 4 6 1 1 1 8 12 2 3D 1 2 7 C 8 62 1 2 9 B 7 49 2 1B 1 1 1 1 1 4 2 31 14 1 2 5 B 1 24
9 1 64 14 17 4 4 3 1 3 2 7 3 4 D C 1 1 A 4 2BF 3 3B2 4 1C 3 1D 2 1E 2 40 20 9 1 2D 3 1 1 75 2 22 1
76 C 4 C DB 5 39 A 1 1D 2 1 30 2E 2 C 14 5 2F 11 26 9 C 3 1E D 38 E 30 14 98 3 1 15 4 1 6 1 2 3 C6
40 2D0 21 BFE 3 8D 1 60 20 22A 6 69 2 75D4 4 1 A 20 2 50 2 110 1 3 1 4 1 17 5 4 1 53 2 32 12 1A 12
D 1 26 8 19 D 2C 4 2F E 24 1 43 E C 1 8 2 2D 3 32 1 1 3 2 2 5 2 1 1 29 5 5 2 EC 8 1 2 4F30 1 2E1
10 10 10 3CD 1 E2 1 95 5 686 3 1 2 5 4 28 3 4 1 A5 2 23D 4 41 5 13D 2 4D 6 46 B 31 4 7A 3 35 F 29
1 2 2 A 4 2D B 7 1 3D 3 24 E 10 2 2C 1 C 3 30 E 8 4 1 2 5C C 6 1 2 1 9D C 15 4 37 2 1 7 2 2 2 3 9
1 A 2 2 7 3 5 43 9 1 1 2 1 1 4 1 5 1 1 E 2 52 12 17 1 51 14 EB 7 2 9 1B 2 52 11 6A D 65 F 100 F F5
6 1 2 2 4 1 1 1 2 8D 7 2 7 3 1 1C A 28 7 1 4 8 1 9 B 2E 10 C6 8 C7 8 1 8 52 16 1 E 7A 6 3 1 1 2 1
7 1 1 42 5 1 2 1 5 15B 4 9 2 1 1 30 7 3 5 17 1 14E5 1 6 F 2CC8 12 9C0 5 3B 7 418 1 1 37 7 4 51 1 B
2 4CAB 2 1261 2E 2 17 21E 5 3 6 8 8 2 7 1E 4 94 3 7BB 37 4 32 8 1 E 1 16 5 1 F 550 7 1 11 2 7 1 2
1 5 64 1 A0 7 177 1 3D 4 1FC 4 FE 2 F3 1 2 1 7 2 5 1 1DA 7 6D 7 C17B5 F0"

/-- Where the kinds of directions begin. -/
def directions : List (Nat × Nat) := CodePoints.values
  "30 3 A 5 7 0 1A 5 6 0 1A 5 2F 0 1 5 7 3 2 5 1 0 1 5 3 3 1 0 1 5 5 0 17 5 1 0 1F 5 1 0 1C1 5 2 0
7 5 E 0 2 5 E 0 5 5 9 0 1 5 11 4 70 0 4 5 2 0 8 5 1 0 5 5 2 0 1 5 1 0 6E 5 1 0 8C 4 7 0 100 5 1 0
2 5 3 1 1 4 2D 1 1 4 1 1 1 4 2 1 1 4 2 1 1 4 1 1 38 2 6 5 2 1 1 5 2 1 1 5 1 1 1 5 2 4 B 1 30 4 15
2 A 5 1 2 2 1 3 4 1 1 65 4 7 2 1 5 1 4 6 1 2 4 2 5 1 4 4 1 2 3 A 1 17 4 1 1 1E 4 1B 1 5B 4 B 1 3A
4 9 1 2 5 4 1 3 4 1 1 18 4 4 1 1 4 9 1 1 4 3 1 1 4 5 1 2B 4 3 1 34 2 2 1 5 4 9 1 2A 4 18 2 1 4 20
0 37 4 1 0 1 4 1 0 4 4 8 0 4 4 1 0 3 4 7 0 A 4 2 0 1D 4 1 0 3A 4 1 0 4 4 4 0 8 4 1 0 14 4 2 0 E 5
2 0 7 5 1 0 2 4 1 0 2 4 2 0 39 4 1 0 4 4 2 0 4 4 2 0 2 4 3 0 3 4 1 0 1E 4 2 0 3 4 1 0 B 4 2 0 39 4
1 0 4 4 5 0 1 4 2 0 4 4 1 0 14 4 2 0 D 5 1 0 8 4 6 0 1 4 1 0 3A 4 1 0 2 4 1 0 1 4 4 0 8 4 1 0 7 4
2 0 B 4 2 0 1E 4 1 0 3D 4 1 0 C 4 1 0 25 5 8 0 5 4 1 0 3 4 1 0 37 4 1 0 1 4 3 0 5 4 3 0 1 4 4 0 7
4 2 0 B 4 2 0 14 5 7 0 2 4 1 0 3A 4 1 0 F 4 2 0 14 4 2 0 1C 4 2 0 39 4 2 0 4 4 4 0 8 4 1 0 14 4 2
0 1D 4 1 0 48 4 1 0 7 4 3 0 1 4 1 0 5A 4 1 0 2 4 7 0 4 5 1 0 7 4 8 0 62 4 1 0 2 4 9 0 B 4 7 0 49 4
2 0 1B 4 1 0 1 4 1 0 1 4 1 5 4 0 33 4 E 0 1 4 5 0 1 4 2 0 5 4 B 0 1 4 24 0 9 4 1 0 66 4 4 0 1 4 6
0 1 4 2 0 2 4 2 0 19 4 2 0 4 4 3 0 10 4 4 0 D 4 1 0 2 4 2 0 6 4 1 0 F 4 1 0 2BF 4 3 0 30 5 A 0 66
5 1 0 27F 5 1 0 1A 5 2 0 75 4 3 0 1D 4 2 0 1E 4 2 0 1E 4 2 0 40 4 2 0 1 4 7 0 8 4 1 0 2 4 B 0 7 5
1 0 1 4 1 0 12 5 A 0 6 5 B 4 3 5 1 4 1 0 75 4 2 0 22 4 1 0 76 4 3 0 4 4 2 0 9 4 1 0 6 4 3 0 4 5 1
0 3 5 2 0 98 5 22 0 17 4 2 0 2 4 1 0 3A 4 1 0 1 4 7 0 1 4 1 0 1 4 1 0 2 4 8 0 6 4 A 0 2 4 1 0 30 4
2E 0 2 4 C 0 14 4 4 0 30 4 1 0 1 4 5 0 1 4 1 0 5 4 1 0 28 4 9 0 C 4 2 0 20 4 4 0 2 4 2 0 1 4 3 0
38 4 1 0 1 4 2 0 3 4 1 0 1 4 3 0 3A 4 8 0 2 4 2 0 98 4 3 0 1 4 D 0 1 4 7 0 4 4 1 0 6 4 1 0 3 4 2 0
C6 4 40 0 1BD 5 1 0 1 5 3 0 B 5 3 0 D 5 3 0 D 5 3 0 D 5 2 0 1 5 E 0 1 1 1 5 60 3 1 0 3 3 6 5 5 0 1
3 A 5 5 0 11 5 30 4 21 0 F 5 2 0 1 5 4 0 1 5 2 0 A 5 1 0 1 5 3 0 5 5 6 0 1 5 1 0 1 5 1 0 1 5 1 0 4
5 1 0 B 5 2 0 4 5 5 0 5 5 4 0 2 5 10 0 29 5 3 0 4 5 1A6 0 45 5 1A 0 1 5 94 0 16 5 B 0 15 5 28 3 14
0 4E 5 1C2 0 1 5 153 0 100 5 274 0 2 5 8A 0 E5 5 6 0 4 4 3 0 7 5 7 0 7F 4 1 0 60 4 20 5 5E 0 22 5
1A 0 1 5 59 0 C 5 D6 0 1A 5 15 0 3 5 19 0 9 4 4 0 2 5 1 0 5 5 2 0 5 5 3 0 59 4 2 5 2 0 3 5 1 0 5A
5 1 0 C4 5 26 0 9 5 1 0 2D 5 2 0 31 5 10 0 1C 5 3 0 32 5 F 0 C 5 4 0 A7 5 4 0 63 5 2 0 1F 5 1 0
19C0 5 40 0 5690 5 37 0 146 5 3 0 5F 4 4 5 1 4 A 5 2 0 1E 4 2 0 50 4 2 0 E 5 22 0 66 5 1 0 79 4 1
0 3 4 1 0 4 4 1 0 19 4 2 0 1 5 4 4 1 0 B 5 2 0 3A 5 4 0 4C 4 2 0 1A 4 12 0 D 4 1 0 26 4 8 0 19 4 B
0 2E 4 3 0 30 4 1 0 2 4 4 0 2 4 2 0 27 4 1 0 43 4 6 0 2 4 2 0 2 4 2 0 C 4 1 0 8 4 1 0 2F 4 1 0 33
4 1 0 1 4 3 0 2 4 2 0 5 4 2 0 1 4 1 0 2A 4 2 0 8 4 1 0 73 5 2 0 79 4 1 0 2 4 1 0 4 4 1 0 4F2F 1 1
4 1 1 A 5 1 1 99 5 10 1 16B 5 12 1 40 5 2 1 36 5 28 1 D 5 3 4 10 5 A 0 6 4 10 5 23 0 1 5 13 0 1 5
4 0 4 1 8F 5 1 0 1 5 F 3 A 5 7 0 1A 5 6 0 1A 5 B 0 7A 5 7 0 1 5 7 0 1 5 10 0 101 5 1 0 3E 5 4D 0 3
5 D 0 3 5 1 0 5C 4 1 0 E2 4 1 3 1B 0 7A 4 5 0 485 1 11F 5 1 1 E1 4 3 1 1 4 2 1 5 4 4 1 28 4 3 1 4
4 1 1 A5 4 2 1 52 5 7 1 1E4 4 4 1 8 2 A 1 6 2 A 1 1F 4 5 5 1 1 F1 2 1F 1 2C 4 2 1 23 5 9 1 21 4 6
1 46 4 B 1 31 4 4 1 7A 0 1 4 1 0 36 4 F 0 B 5 14 0 A 4 1 0 2 4 2 0 A 4 3 0 31 4 4 0 2 4 2 0 7 4 1
0 3D 4 3 0 24 4 5 0 1 4 8 0 3E 4 1 0 C 4 2 0 34 4 9 0 A 4 4 0 2 4 1 0 5F 4 3 0 2 4 1 0 1 4 2 0 6 4
1 0 2 4 1 0 9D 4 1 0 3 4 8 0 15 4 2 0 39 4 2 0 3 4 1 0 25 4 7 0 3 4 5 0 46 4 6 0 D 4 1 0 1 4 1 0 1
4 1 0 E 4 2 0 55 4 8 0 2 4 3 0 1 4 1 0 17 4 1 0 54 4 6 0 1 4 1 0 4 4 2 0 1 4 2 0 EE 4 4 0 6 4 2 0
1 4 2 0 1B 4 2 0 55 4 8 0 2 4 1 0 1 4 2 0 1F 5 D 0 3E 4 1 0 1 4 1 0 2 4 6 0 1 4 1 0 65 4 1 0 1 4 1
0 2 4 4 0 1 4 5 0 103 4 9 0 1 4 2 0 100 4 2 0 1 4 1 0 4 4 1 0 90 4 4 0 2 4 2 0 4 4 1 0 20 4 6 0 2
4 2 0 28 4 6 0 2 4 4 0 8 4 1 0 9 4 6 0 2 4 3 0 2E 4 D 0 1 4 2 0 C6 4 1 0 1 4 3 0 1 4 1 0 C9 4 7 0
1 4 6 0 54 4 16 0 2 4 7 0 1 4 2 0 1 4 2 0 7A 4 6 0 3 4 1 0 1 4 2 0 1 4 7 0 1 4 1 0 48 4 2 0 3 4 1
0 1 4 1 0 15B 4 2 0 B 4 2 0 34 4 5 0 5 4 1 0 1 4 1 0 17 4 1 0 7A 5 1D 0 144E 4 1 0 6 4 F 0 2CC8 4
C 0 3 4 3 0 9C0 4 5 0 3B 4 7 0 418 4 1 0 3F 4 4 0 4F 5 1 0 1 4 1 0 4CB8 4 2 0 1 5 4 0 F5C 5 F0 0 A
5 3 0 3 5 1B4 0 6 5 17 0 F 5 11 0 F 4 2E 0 2 4 17 0 220 4 3 0 9 5 8 4 8 0 2 4 7 0 1E 4 4 0 3B 5 2
0 15 5 42 4 3 5 1 0 BA 5 57 0 384 5 1 0 39 5 1 0 39 5 1 0 39 5 1 0 39 5 1 0 A 3 32 0 200 4 37 0 4
4 32 0 8 4 1 0 E 4 1 0 16 4 5 0 1 4 F 0 550 4 7 0 1 4 11 0 2 4 7 0 1 4 2 0 1 4 5 0 64 4 1 0 A0 4 7
0 177 4 1 0 3D 4 4 0 F 5 1 0 1EC 4 4 0 FE 4 2 0 F3 4 1 0 2 4 1 0 7 4 2 0 5 4 1 0 10A 1 D0 4 7 1 6D
4 7 1 5A5 5 2 1 10E 5 2C 0 4 5 64 0 C 5 F 0 2 5 F 0 1 5 F 0 1 5 25 0 A 3 B 5 5 0 1F 5 1 0 3A 5 6 0
3D 5 1 0 B2 5 6 0 9A 5 3D9 0 3 5 11 0 3 5 D 0 3 5 DA 0 6 5 C 0 4 5 1 0 F 5 C 0 4 5 38 0 8 5 A 0 6
5 28 0 8 5 1E 0 2 5 C 0 4 5 2 0 E 5 9 0 27 5 158 0 8 5 E 0 2 5 D 0 3 5 B 0 3 5 39 0 1 5 1 0 4 5 10
0 2 5 C 0 4 5 A 0 7 5 93 0 1 5 5C 3 A 5 1 0 403 5 2 0 FFFE 5 2 0 FFFE 5 2 0 FFFE 5 2 0 FFFE 5 2 0
FFFE 5 2 0 FFFE 5 2 0 FFFE 5 2 0 FFFE 5 2 0 FFFE 5 2 0 FFFE 5 2 0 FFFE 5 2 0 FFFE 5 102 4 F0 5 E10
0 EFFE 5 2 0 FFFE 5 2 0 FFFE 5"

/-- Where the kinds of joining begin. -/
def joinings : List (Nat × Nat) := CodePoints.values
  "AD 4 1 0 252 4 70 0 113 4 7 0 107 4 2D 0 1 4 1 0 1 4 2 0 1 4 2 0 1 4 1 0 48 4 B 0 1 4 1 0 3 3 1
0 1 2 4 3 1 2 1 3 1 2 1 3 5 2 4 3 D 0 1 3 7 2 1 3 2 4 15 0 E 3 2 4 1 2 3 0 1 2 3 3 10 2 12 3 26 2
1 3 2 2 9 3 1 2 1 3 1 2 1 3 2 2 2 0 1 2 1 4 7 0 2 4 6 0 2 4 2 0 1 4 4 2 2 0 A 3 3 0 2 3 1 0 F 4 1
2 1 4 1 3 3 2 5 3 4 2 1 3 9 2 1 3 1 2 1 3 1 2 1 3 2 2 1 4 1B 0 2 2 1 3 B 2 3 3 F 2 2 3 4 2 1 3 1 2
2 3 3 2 2 3 6 0 26 4 B 0 19 3 21 4 9 0 9 4 1 0 18 4 4 0 1 4 9 0 1 4 3 0 1 4 5 0 12 2 1 3 5 2 2 3 1
2 1 3 A 2 1 3 1 2 3 4 3 0 4 3 1 0 1 3 4 0 1 2 1 3 1 2 2 0 5 2 13 0 3 3 1 0 2 3 5 2 1 3 1 0 7 4 9 3
A 2 3 0 1 2 1 3 2 2 2 3 6 2 1 3 F 0 1 4 18 0 1 4 20 0 37 4 1 0 1 4 1 0 4 4 8 0 4 4 1 0 3 4 7 0 A 4
2 0 1D 4 1 0 3A 4 1 0 4 4 4 0 8 4 1 0 14 4 2 0 1A 4 1 0 2 4 2 0 39 4 1 0 4 4 2 0 4 4 2 0 2 4 3 0 3
4 1 0 1E 4 2 0 3 4 1 0 B 4 2 0 39 4 1 0 4 4 5 0 1 4 2 0 4 4 1 0 14 4 2 0 16 4 6 0 1 4 1 0 3A 4 1 0
2 4 1 0 1 4 4 0 8 4 1 0 7 4 2 0 B 4 2 0 1E 4 1 0 3D 4 1 0 C 4 1 0 32 4 1 0 3 4 1 0 37 4 1 0 1 4 3
0 5 4 3 0 1 4 4 0 7 4 2 0 B 4 2 0 1D 4 1 0 3A 4 1 0 2 4 1 0 6 4 1 0 5 4 2 0 14 4 2 0 1C 4 2 0 39 4
2 0 4 4 4 0 8 4 1 0 14 4 2 0 1D 4 1 0 48 4 1 0 7 4 3 0 1 4 1 0 5A 4 1 0 2 4 7 0 C 4 8 0 62 4 1 0 2
4 9 0 B 4 7 0 49 4 2 0 1B 4 1 0 1 4 1 0 1 4 1 0 37 4 E 0 1 4 5 0 1 4 2 0 5 4 B 0 1 4 24 0 9 4 1 0
66 4 4 0 1 4 6 0 1 4 2 0 2 4 2 0 19 4 2 0 4 4 3 0 10 4 4 0 D 4 1 0 2 4 2 0 6 4 1 0 F 4 1 0 2BF 4 3
0 3B2 4 3 0 1D 4 2 0 1E 4 2 0 1E 4 2 0 40 4 2 0 1 4 7 0 8 4 1 0 2 4 B 0 9 4 1 0 29 3 1 0 3 4 3 0 1
4 1 0 10 3 59 0 C 4 2 3 22 4 1 3 1 0 75 4 3 0 4 4 2 0 9 4 1 0 6 4 3 0 DB 4 2 0 2 4 1 0 3A 4 1 0 1
4 7 0 1 4 1 0 1 4 1 0 2 4 8 0 6 4 A 0 2 4 1 0 30 4 2E 0 2 4 C 0 14 4 4 0 30 4 1 0 1 4 5 0 1 4 1 0
5 4 1 0 28 4 9 0 C 4 2 0 20 4 4 0 2 4 2 0 1 4 3 0 38 4 1 0 1 4 2 0 3 4 1 0 1 4 3 0 3A 4 8 0 2 4 2
0 98 4 3 0 1 4 D 0 1 4 7 0 4 4 1 0 6 4 1 0 3 4 2 0 C6 4 40 0 20B 4 1 0 2 4 2 0 1A 4 5 0 31 4 5 0 5
4 6 0 60 4 21 0 BFE 4 3 0 8D 4 1 0 60 4 20 0 22A 4 4 0 6B 4 2 0 75D4 4 4 0 1 4 A 0 20 4 2 0 50 4 2
0 110 4 1 0 3 4 1 0 4 4 1 0 19 4 2 0 5 4 1 0 13 3 32 1 1 0 51 4 2 0 1A 4 12 0 D 4 1 0 26 4 8 0 19
4 B 0 2E 4 3 0 30 4 1 0 2 4 4 0 2 4 2 0 27 4 1 0 43 4 6 0 2 4 2 0 2 4 2 0 C 4 1 0 8 4 1 0 2F 4 1 0
33 4 1 0 1 4 3 0 2 4 2 0 5 4 2 0 1 4 1 0 2A 4 2 0 8 4 1 0 EE 4 1 0 2 4 1 0 4 4 1 0 4F30 4 1 0 2E1
4 10 0 10 4 10 0 CF 4 1 0 F9 4 3 0 201 4 1 0 E2 4 1 0 95 4 5 0 686 4 3 0 1 4 2 0 5 4 4 0 28 4 3 0
4 4 1 0 80 3 5 2 1 0 1 2 1 0 1 2 2 0 2 1 1 2 5 3 4 1 1 3 5 2 1 3 3 2 1 0 2 2 1 4 2 0 4 3 4 2 1 0
90 3 1 2 1 3 1 2 3 3 3 2 1 3 2 2 1 3 1 2 2 3 1 2 1 0 17 2 4 3 2 0 151 1 1 3 21 2 1 3 1 4 4 0 41 4
5 0 13D 4 2 0 15 2 1 3 2 0 1 3 2 0 32 4 6 0 30 3 3 2 1 3 11 0 1 4 B 3 3 2 1 0 1B 3 4 2 2 3 C 4 4 0
2A 3 1 0 1 3 2 2 3 0 1 3 1 2 2 3 2 2 1 3 2 0 1 3 1 2 2 3 1 0 4 2 1 3 1 1 1 0 35 4 1 0 36 4 F 0 29
4 1 0 2 4 2 0 A 4 3 0 31 4 4 0 2 4 2 0 7 4 1 0 3D 4 3 0 24 4 5 0 1 4 8 0 3E 4 1 0 C 4 2 0 34 4 9 0
A 4 4 0 2 4 1 0 5F 4 3 0 2 4 1 0 1 4 2 0 6 4 1 0 2 4 1 0 9D 4 1 0 3 4 8 0 15 4 2 0 39 4 2 0 3 4 1
0 25 4 7 0 3 4 5 0 46 4 6 0 D 4 1 0 1 4 1 0 1 4 1 0 E 4 2 0 55 4 8 0 2 4 3 0 1 4 1 0 17 4 1 0 54 4
6 0 1 4 1 0 4 4 2 0 1 4 2 0 EE 4 4 0 6 4 2 0 1 4 2 0 1B 4 2 0 55 4 8 0 2 4 1 0 1 4 2 0 6A 4 1 0 1
4 1 0 2 4 6 0 1 4 1 0 65 4 1 0 1 4 1 0 2 4 4 0 1 4 5 0 103 4 9 0 1 4 2 0 100 4 2 0 1 4 1 0 4 4 1 0
90 4 4 0 2 4 2 0 4 4 1 0 20 4 A 0 28 4 6 0 2 4 4 0 8 4 1 0 9 4 6 0 2 4 3 0 2E 4 D 0 1 4 2 0 C6 4 1
0 1 4 3 0 1 4 1 0 C9 4 7 0 1 4 6 0 1 4 1 0 52 4 16 0 2 4 7 0 1 4 2 0 1 4 2 0 7A 4 6 0 3 4 1 0 1 4
2 0 1 4 7 0 1 4 1 0 48 4 2 0 3 4 1 0 1 4 1 0 15B 4 2 0 B 4 2 0 34 4 5 0 5 4 1 0 1 4 1 0 17 4 1 0
14D5 4 11 0 6 4 F 0 2CC8 4 C 0 3 4 3 0 9C0 4 5 0 3B 4 7 0 418 4 1 0 3F 4 4 0 51 4 1 0 4CB8 4 2 0 1
4 4 0 125C 4 2E 0 2 4 17 0 220 4 3 0 9 4 10 0 2 4 7 0 1E 4 4 0 94 4 3 0 7BB 4 37 0 4 4 32 0 8 4 1
0 E 4 1 0 16 4 5 0 1 4 F 0 550 4 7 0 1 4 11 0 2 4 7 0 1 4 2 0 1 4 5 0 64 4 1 0 A0 4 7 0 177 4 1 0
3D 4 4 0 1FC 4 4 0 FE 4 2 0 F3 4 1 0 2 4 1 0 7 4 2 0 5 4 1 0 1DA 4 7 0 29 3 44 4 8 0 C16B5 4 1 0
1E 4 60 0 80 4 F0 0"

/-- In which direction a character runs. -/
inductive Direction
  | left
  | right
  | arabicNumber
  | number
  | mark
  | neutral
deriving DecidableEq, Repr

/-- The direction of a character. -/
def direction (n : Nat) : Direction :=
  match CodePoints.valueAt 5 directions n with
  | 0 => .left
  | 1 => .right
  | 2 => .arabicNumber
  | 3 => .number
  | 4 => .mark
  | _ => .neutral

/-- How a letter joins its neighbours. -/
inductive Joining
  | none
  | left
  | right
  | both
  | transparent
deriving DecidableEq, Repr

/-- The joining of a character. -/
def joining (n : Nat) : Joining :=
  match CodePoints.valueAt 0 joinings n with
  | 1 => .left
  | 2 => .right
  | 3 => .both
  | 4 => .transparent
  | _ => .none

/-- The first joining that is not passed over. -/
def nextJoining (ns : List Nat) : Joining :=
  match ns.dropWhile (joining · == .transparent) with
  | [] => .none
  | n :: _ => joining n

/-- The invisible joiners stand where they may, where `before` holds the characters before the rest,
last first. Both may follow a virama, and the one that separates may stand between letters that
would join. -/
def joinersFit (before : List Nat) : List Nat → Bool
  | [] => true
  | n :: rest =>
    let afterVirama := before.head?.any (Composition.classOf · == 9)
    let separates :=
      (nextJoining before == .left || nextJoining before == .both) &&
        (nextJoining rest == .right || nextJoining rest == .both)
    (n != 0x200D || afterVirama) && (n != 0x200C || afterVirama || separates) &&
      joinersFit (n :: before) rest

/-- The label has letters or numbers that run from right to left. -/
def runsRight (label : List Nat) : Bool :=
  label.any fun n ↦ direction n == .right || direction n == .arabicNumber

/-- The label keeps to one direction: that of its first letter. -/
def isOneWay (label : List Nat) : Bool :=
  let kinds := label.map direction
  let last := (kinds.reverse.dropWhile (· == .mark)).head?
  match kinds with
  | [] => true
  | .right :: _ =>
    !kinds.contains .left &&
      (last == some .right || last == some .number || last == some .arabicNumber) &&
      !(kinds.contains .number && kinds.contains .arabicNumber)
  | .left :: _ =>
    !kinds.contains .right && !kinds.contains .arabicNumber &&
      (last == some .left || last == some .number)
  | _ => false

/-- How many characters a label beyond ASCII may have. -/
def longest : Nat := 1000

/-- How many characters may follow the mark of an encoded label. -/
def longestEncoded : Nat := 2000

/-- The label may stand in a name, as far as it alone is concerned. -/
def isReadable (label : List Nat) : Bool :=
  !label.head?.any (CodePoints.mem markBoundaries) && joinersFit [] label &&
    label.length ≤ longest

/-- The mark of an encoded label. -/
def encodedMark : List Nat := "xn--".toList.map Char.toNat

/-- The characters of a label, which may be encoded. An encoded label must need to be so, and must
be in the form that a name beyond ASCII is brought into. -/
def decode? (label : List Nat) : Option (List Nat) :=
  if encodedMark.isPrefixOf label then do
    guard (label.length ≤ 4 + longestEncoded)
    let decoded ← Punycode.decode? (label.drop 4)
    if decoded.all (· < 0x80) || Composition.compose decoded != decoded ||
        !decoded.all DomainMapping.isKept then none
    else some decoded
  else some label

/-- The label in ASCII. -/
def encode (label : List Nat) : List Nat :=
  if label.all (· < 0x80) then label else encodedMark ++ Punycode.encode label

end LeagueStandings.DomainLabel
