/-!
# Classes of characters

Numbers are in base sixteen.  A range is the distance from the end of the range
before it, its length, and its class where there are several.
-/

namespace Registrar.Idna.Table

/-- Ranges of the marks, which never begin a label. -/
def marks : String :=
  "300 40 2 1 3 9 1 20 113 7 107 2d 1 1 1 2 1 2 1 1 48 b 30 15 10 1 65 7 2 6 2 2 1 4 23 1
   1e 1b 5b b 3a 9 9 1 18 4 1 9 1 3 1 5 2b 3 3c 8 2a 18 1 21 36 3 1 12 1 7 a 2 1d 3 38 1 1
   7 2 2 2 3 9 1 a 2 1a 1 2 3 38 1 1 5 4 2 2 3 3 1 1e 2 3 1 b 3 38 1 1 8 1 3 1 3 14 2 16 6
   1 3 38 1 1 7 2 2 2 3 7 3 a 2 1e 1 3b 5 3 3 1 4 9 1 28 5 37 1 1 7 1 3 1 4 7 2 b 2 1d 3
   38 1 1 7 1 3 1 4 7 2 b 2 1c 4 37 2 1 7 1 3 1 4 9 1 a 2 1d 3 46 1 4 6 1 1 1 8 12 2 3d 1
   2 7 c 8 62 1 2 9 b 6 4a 2 1b 1 1 1 1 1 4 2 31 2 1 1 5 7 1 3 1 2 5 6 1 4 1 4 1 4 1 4 1 4
   1 c 1 3 9 1 64 14 17 4 4 3 1 3 2 7 3 4 d c 1 1 a 4 2bf 3 3b2 4 1c 3 1d 2 1e 2 42 1e 9 1
   a7 2 22 1 76 c 4 c db 5 39 a 1 1d 2 1 30 1f 31 5 2f 11 26 9 c 3 1e d 38 e 30 14 98 3 1
   15 4 1 6 1 2 3 c6 40 2d0 21 bfe 3 8d 1 60 20 22a 6 69 2 75d4 4 1 a 20 2 50 2 110 1 3 1
   4 1 17 5 4 1 53 2 32 12 1a 12 d 1 26 8 19 d 2c 4 2f e 24 1 43 e c 1 8 2 2d 3 32 1 1 3 2
   2 5 2 1 1 29 5 5 2 ec 8 1 2 4f30 1 301 10 3cd 1 e2 1 95 5 686 3 1 2 5 4 28 3 4 1 a5 2
   23d 4 183 2 99 b 31 4 7a 3 35 f 29 1 2 2 a 4 2d b 7 1 3d 3 24 e 10 2 2c 1 c 3 30 e 8 4
   1 2 5c c 6 1 a0 c 15 4 37 2 1 7 2 2 2 3 9 1 a 2 2 7 3 5 c0 12 17 1 51 14 eb 7 2 9 1b 2
   52 11 6a d 65 f 100 f f5 6 1 2 2 4 1 1 1 2 8d 7 2 7 3 1 1c a 28 7 1 4 8 1 9 b 2e 10 195
   8 1 8 52 16 1 e 7a 6 3 1 1 2 1 7 1 1 42 5 1 2 1 5 15b 4 4bf9 5 3b 7 418 1 1 37 7 4 51 1
   b 2 4cab 2 1261 2e 2 17 21e 5 3 6 8 8 2 7 1e 4 94 3 7bb 37 4 32 8 1 e 1 16 5 1 f 550 7
   1 11 2 7 1 2 1 5 105 7 177 1 3d 4 5e0 7 6d 7"

/-- Ranges by direction, as the directions are numbered; characters without a range are
written from left to right. -/
def directions : String :=
  "0 9 8 0 1 b 0 1 a 0 1 b 0 1 c 0 1 a 0 e 8 0 3 a 0 1 b 0 1 c 0 2 7 0 3 6 0 5 7 0 1 4 0 1
   5 0 1 4 0 2 5 0 a 3 0 1 5 0 6 7 1a 6 7 1a 4 7 0 1 8 21 1 7 0 4 6 0 2 7 1 1 7 1 2 7 1 1
   7 1 2 6 4 2 7 3 1 7 3 1 7 17 1 7 1f 1 7 1c1 2 7 7 e 7 2 6 7 6 2 7 5 9 7 1 11 7 0 40 9 2
   1 9 3 9 9 1 20 9 5 1 7 80 1 7 8c 7 9 100 1 7 2 2 7 0 1 6 1 2d 9 0 1 0 0 1 9 0 1 0 0 2 9
   0 1 0 0 2 9 0 1 0 0 1 9 8 1b 0 4 6 0 11 2 7 0 1 1 0 2 6 0 1 1 0 1 5 0 1 1 0 2 7 0 b 9 0
   1 1 1 2e 1 0 15 9 0 a 2 0 1 6 0 2 2 0 3 1 0 1 9 0 4 1 4 5d 1 0 7 9 1 1 7 0 6 9 0 2 1 0
   2 9 0 1 7 0 4 9 0 2 1 0 a 3 0 14 1 2 1 1 0 1 9 0 1e 1 0 1b 9 2 59 1 0 b 9 0 1 1 e 2b 0
   0 9 9 0 2 0 0 4 7 0 1 0 2 1 9 0 18 0 0 4 9 0 1 0 0 9 9 0 1 0 0 3 9 0 1 0 0 5 9 2 f 0 1
   19 0 0 3 9 2 1 0 1 b 1 5 1f 1 9 8 9 0 2a 1 0 18 9 1 20 9 37 1 9 1 1 9 4 8 9 4 1 9 3 7 9
   a 2 9 1d 1 9 3a 1 9 4 4 9 8 1 9 14 2 9 e 2 6 7 1 6 2 1 9 2 2 9 39 1 9 4 2 9 4 2 9 2 3 9
   3 1 9 1e 2 9 3 1 9 b 2 9 39 1 9 4 5 9 1 2 9 4 1 9 14 2 9 d 1 6 8 6 9 1 1 9 3a 1 9 2 1 9
   1 4 9 8 1 9 7 2 9 b 2 9 1e 1 9 3d 1 9 c 1 9 25 6 7 0 1 6 0 1 7 5 1 9 3 1 9 37 1 9 1 3 9
   5 3 9 1 4 9 7 2 9 b 2 9 14 7 7 2 1 9 3a 1 9 f 2 9 14 2 9 1c 2 9 39 2 9 4 4 9 8 1 9 14 2
   9 1d 1 9 48 1 9 7 3 9 1 1 9 5a 1 9 2 7 9 4 1 6 7 8 9 62 1 9 2 9 9 b 6 9 4a 2 9 1b 1 9 1
   1 9 1 1 9 0 4 7 33 2 9 1 1 9 5 5 9 1 1 9 1 3 9 1 2 9 5 6 9 1 4 9 1 4 9 1 4 9 1 4 9 1 4
   9 1 c 9 1 3 9 9 1 9 66 4 9 1 6 9 1 2 9 2 2 9 19 2 9 4 3 9 10 4 9 d 1 9 2 2 9 6 1 9 f 1
   9 2bf 3 9 30 a 7 66 1 7 29a 2 7 75 3 9 1d 2 9 1e 2 9 1e 2 9 43 7 9 8 1 9 2 b 9 7 1 6 1
   1 9 12 a 7 6 b 7 7a 2 9 22 1 9 76 3 9 4 2 9 9 1 9 6 3 9 4 1 7 3 2 7 98 22 7 17 2 9 2 1
   9 3a 1 9 1 7 9 1 1 9 1 1 9 2 8 9 6 a 9 2 1 9 30 1f 9 31 4 9 30 1 9 1 5 9 1 1 9 5 1 9 28
   9 9 c 2 9 20 4 9 2 2 9 1 3 9 38 1 9 1 2 9 3 1 9 1 3 9 3a 8 9 2 2 9 98 3 9 1 d 9 1 7 9 4
   1 9 6 1 9 3 2 9 c6 40 9 20c 2 8 2 1 7 1 5 7 1 c 7 3 1 7 8 3 6 2 1 7 2 4 7 1 1 7 1 5 7 0
   1 5 0 2 7 3 d 7 1 7 7 41 8 6 1 18 6 f 21 9 13 1 7 3 1 7 b 1 7 2 2 7 5 2 7 3 1 7 1 1 7 1
   1 7 1 1 7 4 1 6 b 1 7 6 4 7 5 4 7 3c 2 7 4 82 7 0 1 4 0 1 6 0 18 7 2 1 7 2 f8 7 2 b 7
   45 1a 7 1 91 7 19 b 7 a0 1c1 7 1 153 7 100 10c 7 1 67 7 3 65 7 1 97 7 2 20 7 1 69 7 e5
   6 7 4 3 9 7 7 7 7f 1 9 60 20 9 0 5e 7 22 1a 7 1 4 7 1 53 7 10e 1 7 1 2 7 3 19 7 9 4 9 2
   1 7 6 1 7 5 3 7 59 2 9 5 1 7 5a 1 7 c4 24 7 1bdc 40 7 5690 37 7 146 3 7 5f 4 9 0 1 7 0
   a 9 0 2 7 1e 2 9 50 2 9 e 22 7 66 1 7 79 1 9 3 1 9 4 1 9 19 2 9 1 4 7 0 1 9 b 2 6 3a 4
   7 4c 2 9 1a 12 9 d 1 9 26 8 9 19 b 9 2e 3 9 30 1 9 2 4 9 2 2 9 27 1 9 43 6 9 2 2 9 2 2
   9 c 1 9 8 1 9 2f 1 9 33 1 9 1 3 9 2 2 9 5 2 9 1 1 9 2a 2 9 8 1 9 73 2 7 79 1 9 2 1 9 4
   1 9 4f30 1 9 93 11 1 17b 12 7 7f 1 7 2d 3 7 20 10 9 15 2 7 2c 1 1 28d 1 7 3e 4d 7 3 d 7
   3 1 7 5c 1 9 e2 1 9 0 1b 3 7a 5 9 485 6 0 2 1 0 1 2c 0 1 2 0 3 1 0 2 17 0 1 48 0 8 9 0
   30 13 0 1 2 0 5 21 0 3 1 7 0 1a 0 5 1 0 40 38 0 4 14 0 2 2f 0 0 3 9 1 2 9 5 4 9 0 4 0 1
   3 0 1 1d 0 2 3 9 4 1 9 0 9 0 7 9 0 7 40 0 20 25 0 0 2 9 4 c 0 9 36 0 3 7 7 0 16 0 2 1b
   0 5 1a 0 7 4 0 c 7 0 50 49 0 77 33 0 7 6 0 0 24 1 0 4 9 8 a 2 126 1f 2 1 2a 0 1 2 9 0 1
   0 2 2 0 4e 28 0 8 16 1 0 b 9 0 9 1 16 12 0 0 4 9 0 4 0 26 1c 0 14 17 0 a 1 9 36 f 9 b
   14 7 a 1 9 2 2 9 a 3 9 31 4 9 2 2 9 7 1 9 3d 3 9 24 5 9 1 8 9 3e 1 9 c 2 9 34 9 9 a 4 9
   2 1 9 5f 3 9 2 1 9 1 2 9 6 1 9 a0 1 9 3 8 9 15 2 9 39 2 9 3 1 9 25 7 9 3 5 9 c3 8 9 2 3
   9 1 1 9 17 1 9 54 6 9 1 1 9 4 2 9 1 2 9 ee 4 9 6 2 9 1 2 9 1b 2 9 55 8 9 2 1 9 1 2 9 1f
   d 7 3e 1 9 1 1 9 2 6 9 1 1 9 65 3 9 2 4 9 1 5 9 103 9 9 1 2 9 100 2 9 1 1 9 4 1 9 90 4
   9 2 2 9 4 1 9 20 6 9 2 2 9 28 6 9 2 4 9 8 1 9 9 6 9 2 3 9 2e d 9 1 2 9 196 7 9 1 6 9 54
   16 9 2 7 9 1 2 9 1 2 9 7a 6 9 3 1 9 1 2 9 1 7 9 1 1 9 48 2 9 3 1 9 1 1 9 15b 2 9 e0 8 7
   0 4 6 0 11 7 4afe 5 9 3b 7 9 418 1 9 3f 4 9 4f 1 7 1 1 9 4cb8 2 9 1261 2e 9 2 17 9 220
   3 9 11 8 9 2 7 9 1e 4 9 3b 2 7 15 42 7 0 3 9 0 1 7 ba 57 7 6a9 37 9 4 32 9 8 1 9 e 1 9
   16 5 9 1 f 9 550 7 9 1 11 9 2 7 9 1 2 9 1 5 9 105 7 9 177 1 9 3d 4 9 f 1 6 500 c5 0 2 9
   0 0 7 9 4b 22 0 0 7 9 0 1 0 4 a 0 4 2 0 311 44 1 4c 3d 1 1b2 2 7 10e 2c 7 4 64 7 c f 7
   2 f 7 1 f 7 1 25 7 15 5 7 1f 1 7 3d 3 7 3d 1 7 b2 6 7 9a 3d8 7 5 10 7 3 d 7 3 74 7 c 59
   7 7 c 7 4 1 7 f c 7 4 38 7 8 a 7 6 28 7 8 1e 7 2 2 7 4e 154 7 c e 7 2 5 7 3 5 7 3 7 7 9
   1d 7 3 b 7 5 6 7 a a 7 6 8 7 8 7 7 9 93 7 1 37 7"

/-- Ranges by joining type, as the types are numbered; characters without a range do not
join. -/
def joining : String :=
  "ad 1 3 252 70 3 113 7 3 107 2d 3 1 1 3 1 2 3 1 2 3 1 1 3 48 b 3 1 1 3 3 1 2 1 4 1 0 1 2
   0 1 1 0 1 2 0 1 1 0 5 2 0 4 1 0 d 2 0 1 4 0 7 2 0 1 1 0 2 2 0 15 3 e 2 2 0 1 3 0 3 1 1
   3 1 0 10 2 0 12 1 0 26 2 0 1 1 0 2 2 0 9 1 0 1 2 0 1 1 0 1 2 0 1 1 0 2 2 0 2 1 1 1 1 0
   7 3 2 6 3 2 2 3 1 4 3 0 2 1 a 3 2 2 1 2 f 1 3 0 1 1 0 1 3 0 3 2 0 5 1 0 4 2 0 1 1 0 9 2
   0 1 1 0 1 2 0 1 1 0 1 2 0 1 1 0 2 2 0 1 1 0 1b 3 2 1 1 0 b 2 0 3 1 0 f 2 0 2 1 0 4 2 0
   1 1 0 1 2 0 2 1 0 3 2 0 2 1 0 6 2 26 b 3 19 21 2 0 9 3 6 1 4 2 1 3 18 4 3 1 9 3 1 3 3 1
   5 3 12 1 1 0 5 2 0 2 1 0 1 2 0 1 1 0 a 2 0 1 1 0 1 2 0 3 1 0 3 3 4 1 2 1 4 2 1 1 1 0 1
   2 0 2 1 5 13 1 0 3 4 0 1 2 2 5 2 0 1 1 0 1 2 7 9 3 0 a 2 0 3 1 1 1 1 0 2 2 0 2 1 0 6 2
   0 1 1 0 f 2 1 18 3 1 20 3 37 1 3 1 1 3 4 8 3 4 1 3 3 7 3 a 2 3 1d 1 3 3a 1 3 4 4 3 8 1
   3 14 2 3 1a 1 3 2 2 3 39 1 3 4 2 3 4 2 3 2 3 3 3 1 3 1e 2 3 3 1 3 b 2 3 39 1 3 4 5 3 1
   2 3 4 1 3 14 2 3 16 6 3 1 1 3 3a 1 3 2 1 3 1 4 3 8 1 3 7 2 3 b 2 3 1e 1 3 3d 1 3 c 1 3
   32 1 3 3 1 3 37 1 3 1 3 3 5 3 3 1 4 3 7 2 3 b 2 3 1d 1 3 3a 1 3 2 1 3 6 1 3 5 2 3 14 2
   3 1c 2 3 39 2 3 4 4 3 8 1 3 14 2 3 1d 1 3 48 1 3 7 3 3 1 1 3 5a 1 3 2 7 3 c 8 3 62 1 3
   2 9 3 b 7 3 49 2 3 1b 1 3 1 1 3 1 1 3 37 e 3 1 5 3 1 2 3 5 b 3 1 24 3 9 1 3 66 4 3 1 6
   3 1 2 3 2 2 3 19 2 3 4 3 3 10 4 3 d 1 3 2 2 3 6 1 3 f 1 3 2bf 3 3 3b2 3 3 1d 2 3 1e 2 3
   1e 2 3 40 2 3 1 7 3 8 1 3 2 b 3 9 1 3 29 1 2 2 1 4 0 3 3 1 1 3 10 59 2 c 2 3 0 22 2 0 1
   3 0 1 2 75 3 3 4 2 3 9 1 3 6 3 3 db 2 3 2 1 3 3a 1 3 1 7 3 1 1 3 1 1 3 2 8 3 6 a 3 2 1
   3 30 2e 3 2 c 3 14 4 3 30 1 3 1 5 3 1 1 3 5 1 3 28 9 3 c 2 3 20 4 3 2 2 3 1 3 3 38 1 3
   1 2 3 3 1 3 1 3 3 3a 8 3 2 2 3 98 3 3 1 d 3 1 7 3 4 1 3 6 1 3 3 2 3 c6 40 3 20b 1 3 1 1
   4 0 2 3 1a 5 3 31 5 3 5 6 3 60 21 3 bfe 3 3 8d 1 3 60 20 3 22a 4 3 6b 2 3 75d4 4 3 1 a
   3 20 2 3 50 2 3 110 1 3 3 1 3 4 1 3 19 2 3 5 1 3 13 32 2 0 1 0 51 2 3 1a 12 3 d 1 3 26
   8 3 19 b 3 2e 3 3 30 1 3 2 4 3 2 2 3 27 1 3 43 6 3 2 2 3 2 2 3 c 1 3 8 1 3 2f 1 3 33 1
   3 1 3 3 2 2 3 5 2 3 1 1 3 2a 2 3 8 1 3 ee 1 3 2 1 3 4 1 3 4f30 1 3 2e1 10 3 10 10 3 cf
   1 3 f9 3 3 201 1 3 e2 1 3 95 5 3 686 3 3 1 2 3 5 4 3 28 3 3 4 1 3 80 5 2 0 1 1 1 1 1 1
   2 1 2 1 0 0 5 1 0 4 2 0 1 0 0 5 2 0 1 1 0 3 2 0 1 1 2 1 1 0 2 3 4 4 2 0 1 1 90 1 2 0 1
   1 0 1 2 0 3 1 0 3 2 0 1 1 0 2 2 0 1 1 0 1 2 0 2 1 0 1 2 0 1 1 17 4 1 0 2 2 151 1 0 0 21
   2 0 1 1 0 1 2 0 4 3 41 5 3 13d 2 3 15 1 1 0 2 2 1 2 2 32 6 3 30 3 2 0 1 1 0 11 2 1 b 3
   0 3 2 0 1 1 1b 4 2 0 2 1 0 c 2 0 4 3 2a 1 2 1 2 2 0 3 1 1 1 2 0 2 1 0 2 2 0 1 1 0 2 2 1
   1 2 0 2 1 0 1 2 4 1 1 0 1 2 0 1 0 35 1 3 36 f 3 29 1 3 2 2 3 a 3 3 31 4 3 2 2 3 7 1 3
   3d 3 3 24 5 3 1 8 3 3e 1 3 c 2 3 34 9 3 a 4 3 2 1 3 5f 3 3 2 1 3 1 2 3 6 1 3 2 1 3 9d 1
   3 3 8 3 15 2 3 39 2 3 3 1 3 25 7 3 3 5 3 46 6 3 d 1 3 1 1 3 1 1 3 e 2 3 55 8 3 2 3 3 1
   1 3 17 1 3 54 6 3 1 1 3 4 2 3 1 2 3 ee 4 3 6 2 3 1 2 3 1b 2 3 55 8 3 2 1 3 1 2 3 6a 1 3
   1 1 3 2 6 3 1 1 3 65 1 3 1 1 3 2 4 3 1 5 3 103 9 3 1 2 3 100 2 3 1 1 3 4 1 3 90 4 3 2 2
   3 4 1 3 20 a 3 28 6 3 2 4 3 8 1 3 9 6 3 2 3 3 2e d 3 1 2 3 c6 1 3 1 3 3 1 1 3 c9 7 3 1
   6 3 1 1 3 52 16 3 2 7 3 1 2 3 1 2 3 7a 6 3 3 1 3 1 2 3 1 7 3 1 1 3 48 2 3 3 1 3 1 1 3
   15b 2 3 b 2 3 34 5 3 5 1 3 1 1 3 17 1 3 14d5 11 3 6 f 3 2cc8 c 3 3 3 3 9c0 5 3 3b 7 3
   418 1 3 3f 4 3 51 1 3 4cb8 2 3 1 4 3 125c 2e 3 2 17 3 220 3 3 9 10 3 2 7 3 1e 4 3 94 3
   3 7bb 37 3 4 32 3 8 1 3 e 1 3 16 5 3 1 f 3 550 7 3 1 11 3 2 7 3 1 2 3 1 5 3 64 1 3 a0 7
   3 177 1 3 3d 4 3 1fc 4 3 fe 2 3 f3 1 3 2 1 3 7 2 3 5 1 3 1da 7 3 29 44 2 0 8 3 c16b5 1
   3 1e 60 3 80 f0 3"

end Registrar.Idna.Table
