/-!
# Which characters a domain name may have

The table of UTS 46 for names that follow the current rules.  Numbers are in
base sixteen.  A range is the distance from the end of the range before it and
its length.
-/

namespace Registrar.Idna.Table

/-- Ranges of the characters that stand for themselves. -/
def valid : String :=
  "0 41 1a 25 21 7 1 1 1 2 1 1 1 2 4 2 3 1 3 1 17 1 7 21 1 1 1 1 1 1 1 1 1 1 1 1 1 1 1 1 1
   1 1 1 1 1 1 1 1 1 1 1 1 1 1 1 1 1 1 1 1 1 1 1 1 1 1 1 1 1 1 1 1 1 3 1 1 2 1 1 1 1 1 1 3
   1 1 1 1 1 1 1 2 1 1 1 1 1 1 1 1 1 1 1 1 1 1 1 1 1 1 1 1 1 1 1 1 1 1 1 1 1 1 1 1 1 1 1 1
   1 1 1 1 1 1 1 1 1 2 1 1 1 1 1 1 1 2 1 1 1 2 1 3 2 4 1 2 1 3 3 2 1 2 1 1 1 1 1 2 1 1 2 1
   1 2 1 3 1 1 1 2 3 1 7 a 1 1 1 1 1 1 1 1 1 1 1 1 1 1 2 1 1 1 1 1 1 1 1 1 1 1 1 1 1 1 1 1
   2 4 1 3 1 1 1 1 1 1 1 1 1 1 1 1 1 1 1 1 1 1 1 1 1 1 1 1 1 1 1 1 1 1 1 1 1 1 1 1 1 1 1 1
   1 1 1 1 1 1 1 1 1 1 1 1 1 1 1 1 1 1 7 2 1 2 2 1 1 4 1 1 1 1 1 1 1 1 61 9 1f 6 2 5 5b 2
   1 3 9 1 20 1 1 1 1 1 1 1 1 3 3 12 1 1b 23 8 1 1 1 1 1 1 1 1 1 1 1 1 1 1 1 1 1 1 1 1 1 1
   1 1 1 3 1 2 1 1 1 2 2 33 30 1 1 1 1 1 1 1 1 1 1 1 1 1 1 1 1 1 1 1 1 1 1 1 1 1 1 1 1 1 1
   1 1 1 9 1 1 1 1 1 1 1 1 1 1 1 1 1 1 1 1 1 1 1 1 1 1 1 1 1 1 1 1 1 1 1 1 1 1 1 1 1 1 1 1
   1 1 1 1 1 1 1 1 1 1 1 1 1 1 2 1 1 1 1 1 1 1 1 1 1 1 1 2 1 1 1 1 1 1 1 1 1 1 1 1 1 1 1 1
   1 1 1 1 1 1 1 1 1 1 1 1 1 1 1 1 1 1 1 1 1 1 1 1 1 1 1 1 1 1 1 1 1 1 1 1 1 1 1 1 1 1 1 1
   1 1 1 1 1 1 1 1 1 1 1 1 1 1 1 1 1 1 1 1 1 1 1 1 1 1 1 1 1 1 1 1 1 1 1 1 29 2e 1 3 2 3 1
   37 8 1b 4 6 11 16 1 58 4 64 1 30 2 3b 2 65 e 3b 2 31 2 f 1 1c 2 1 1 b 5 20 7 4b 1 75 8
   24 1 8 2 2 2 16 1 7 1 1 3 4 2 9 2 2 2 4 8 1 8 4 2 19 2 3 1 6 4 2 2 16 1 7 1 1 2 1 2 2 2
   1 1 5 4 2 2 3 3 1 a 1 9 11 a 3 1 9 1 3 1 16 1 7 1 2 1 5 2 a 1 3 1 3 2 1 f 4 2 c 7 7 1 3
   1 8 2 2 2 16 1 7 1 2 1 5 2 9 2 2 2 3 7 3 7 5 2 12 a 2 1 6 3 3 1 4 3 2 1 1 1 2 3 2 3 3 3
   c 4 5 3 3 1 4 2 1 6 1 e 15 5 d 1 3 1 17 1 10 2 9 1 3 1 4 7 2 1 3 1 2 2 4 2 a 7 16 1 3 1
   17 1 a 1 5 2 9 1 3 1 4 7 2 5 3 1 4 2 a 1 3 c d 1 3 1 33 1 3 1 6 4 10 2 1a 1 3 1 12 3 18
   1 9 1 1 2 7 3 1 4 6 1 1 1 8 6 a 2 3 c 32 1 7 4 1d 25 2 1 1 1 5 1 18 1 1 1 c 1 a 2 5 1 1
   1 7 1 a 4 2 20 c 1 36 1 4 1 4 1 4 1 4 1 4 1 c 1 3 4 2 1 1 5 7 1 11 1 4 1 4 1 4 1 4 1 4
   1 c 1 3 1 f 1 d 25 a0 30 2c 1 62 2 e8 1 4 2 7 1 1 1 4 2 29 1 4 2 21 1 4 2 7 1 1 1 4 2 f
   1 39 1 4 2 43 2 20 3 1a 6 56 a 280 1 1c 3 59 7 16 9 18 9 14 c d 1 3 1 2 c 34 2 28 2 a 6
   a 6 b 5 a 6 59 7 2b 5 46 a 1f 1 c 4 c 4 1 3 2a 2 5 b 2c 4 1a 6 b 3 3e 2 41 1 1d 2 b 6 a
   6 e 2 2e 2 c 14 4d 1 a6 8 3c 3 f 3 33 a 1 35 8 8 2b 5 2c 3 1 b 1 12 1 1c d 1 22 25 40 1
   1 1 1 1 1 1 1 1 1 1 1 1 1 1 1 1 1 1 1 1 1 1 1 1 1 1 1 1 1 1 1 1 1 1 1 1 1 1 1 1 1 1 1 1
   1 1 1 1 1 1 1 1 1 1 1 1 1 1 1 1 1 1 1 1 1 1 1 1 1 1 1 1 1 1 1 1 1 1 1 1 1 1 1 1 1 1 1 1
   1 1 1 1 1 1 1 1 1 1 1 1 1 1 1 1 1 1 1 1 1 1 1 1 1 1 1 1 1 1 1 1 1 1 1 1 1 1 1 1 1 1 1 1
   1 1 1 1 1 1 1 1 1 1 1 1 1 1 1 1 5 2 2 1 1 1 1 1 1 1 1 1 1 1 1 1 1 1 1 1 1 1 1 1 1 1 1 1
   1 1 1 1 1 1 1 1 1 1 1 1 1 1 1 1 1 1 1 1 1 1 1 1 1 1 1 1 1 1 1 1 1 1 1 1 1 1 1 1 1 1 1 1
   1 1 1 1 1 1 1 1 1 1 1 1 1 1 1 1 1 1 1 1 1 1 1 1 1 1 1 1 9 8 6 a 8 8 8 8 6 a 8 8 8 8 1 1
   1 1 1 1 1 1 1 1 1 1 1 33 2 4 1 f 1 9 3 3 2 8 3 1 4 e 1 15 2 2 1 1 5 1 c 3 1 8 3 2 1 2 4
   1 1 1 8 3 d 1 7 41 8 1 19 e 21 13 1 3 1 b 1 2 2 5 2 3 1 1 1 1 1 1 1 4 1 b 1 6 4 5 6 30
   3 1 5 1 2 4 9c 2 1 2 f8 2 ff 16 b a0 521 1 67 3 65 1 97 2 8a 30 30 1 1 3 2 1 1 1 1 1 1
   4 1 1 2 1 6 5 1 1 1 1 1 1 1 1 1 1 1 1 1 1 1 1 1 1 1 1 1 1 1 1 1 1 1 1 1 1 1 1 1 1 1 1 1
   1 1 1 1 1 1 1 1 1 1 1 1 1 1 1 1 1 1 1 1 1 1 1 1 1 1 1 1 1 1 1 1 1 1 1 1 1 1 1 1 1 1 1 1
   1 1 1 1 1 1 1 1 1 1 1 1 1 1 1 1 1 8 1 1 1 4 1 1 5 2d 1 1 5 1 2 38 8 1 e 18 9 7 1 7 1 7
   1 7 1 7 1 7 1 7 1 7 1 7e 22 1a 1 4 1 53 10e 1 1 33 1 1 3 5 1 56 2 2 2 2 1 5f 6 2b 60 2
   e 46 a 10 48 8 2f 1 180 708d 3 37 9 15c 15 1 1 1 1 1 1 1 1 1 1 1 1 1 1 1 1 1 1 1 1 1 1
   1 1 1 1 1 1 1 1 1 1 1 1 1 1 1 1 1 1 1 1 1 1 13 1 1 1 1 1 1 1 1 1 1 1 1 1 1 1 1 1 1 1 1
   1 1 1 1 1 1 1 1 2 5a 8 22 1 1 1 1 1 1 1 1 1 1 1 1 1 3 1 1 1 1 1 1 1 1 1 1 1 1 1 1 1 1 1
   1 1 1 1 1 1 1 1 1 1 1 1 1 1 1 1 1 1 1 1 1 1 1 1 1 1 1 1 1 1 1 1 1 1 1 1 1 1 1 1 1 1 1 1
   1 1 8 1 1 1 1 2 1 1 1 1 1 1 1 1 4 1 1 1 2 1 1 1 3 1 1 1 1 1 1 1 1 1 1 1 1 1 1 1 1 1 1 1
   1 5 1 5 1 1 1 1 1 1 1 1 1 1 1 1 1 1 1 4 1 1 1 2 1 1 1 1 1 1 1 1 1 1 1 1 1 1 1 1a 2 2 33
   3 a 6 38 8 46 8 c 6 74 b 1e 3 4e 1 b 4 21 1 37 9 e 2 a 2 67 18 1c a 6 2 6 2 6 9 7 1 7 1
   2c 4 9 1 2 54 2e 2 a 6 2ba4 c 17 4 31 2212 2 1 1 1 2 a 1 1 1 1 2 2 3 f4 1 93 21 16b 12
   40 2 36 8 2d 3 20 10 15 2 2c 1 18c c 1 1a 1 13 1 2 1 f 2 e 22 7b 5 3 4 2d 3 58 1 d 3 1
   2f 2e 82 1d 3 31 f 1c 4 24 9 1e 5 2b 5 1e 1 25 4 e 52 76 2 a 2e 24 4 28 8 34 b 1 27 b 1
   f 1 7 1 2 3 34 c 137 9 16 a 8 18 1 7f 6 2 1 1 2c 1 2 3 1 2 17 1 48 8 9 30 13 1 2 5 21 3
   1b 5 1b 26 38 4 14 2 32 1 2 5 8 1 3 1 1d 2 3 4 a 7 9 7 40 20 27 4 c 9 36 3 1d 2 1b 5 1a
   7 4 c 7 50 49 77 33 7 2e 8 a 6 10 19 1d 8 2 d0 1f 1 2a 1 3 2 2 10 6 8 9 21 2e 8 2a 16
   1a 26 1c 14 17 9 4e 4 24 9 3e 1 5 d 19 7 a 6 35 1 12 8 27 9 60 1 14 b 12 1 2f 3e 7 1 1
   1 4 1 f 1 b 6 3b 5 a 6 4 1 8 2 2 2 16 1 7 1 2 1 5 1 a 2 2 2 3 2 1 6 1 5 7 2 7 3 5 b a 1
   1 2 1 1 26 1 a 1 1 2 1 1 4 1 a 1 2 8 2 1d 5c 1 5 1e 48 8 a a6 36 2 26 22 45 b a 6 d 13
   3a 6 a 6 14 1c 1b 2 f 4 17 b9 3c 84 33 c 8 2 1 2 8 1 2 1 1e 1 2 2 c 9 a 46 8 2 2e 2 b
   1b 48 8 53 d 49 7 a 56 8 58 22 e a 6 9 1 2d 1 e a 1d 3 20 2 16 1 e 49 7 1 2 1 2c 3 1 1
   2 1 9 8 a 6 6 1 2 1 25 1 2 1 6 7 a 6 2c 4 a f6 19 7 11 1 29 3 1d 55 1 f 32 d 39b 66 6f
   1 5 b c4 a4c 63 d 430 10 16 a f9b 5 247 1ab9 3a 6c6 239 7 1f 1 a 4 51 1 a 6 1e 2 6 a 46
   a a 1 7 1 15 5 13 1b0 3a e6 3b 20 19 2c 4b 4 39 7 11 40 5 b 7 9 1cd6 29 20 61 73 21fd 4
   1 7 1 2 1 123 f 1 1d 3 2 1 e 4 8 18c 904 6b 5 d 3 9 7 a 2 4 f60 d6 24 3 3 1b4 6 17 f 11
   f 2e 2 17 9 74 3c f6 a 27 2 35 7 e 8 40 6 2a 15 46 7a 14 c 14 c 57 9 19 487 28c f 5 1 f
   450 1f 6 6 d5 7 1 11 2 7 1 2 1 5 64 1 70 2d 3 e 2 a 4 2 140 1f 11 3a 5 1 1d0 2a d6 2b 4
   1 c0 1f 1 16 8 2 e0 7 1 4 1 2 1 f 1 c5 2 10 4b 2a 4 a 4 2 311 44 4c 3d 1b2 2 10e 2c 4
   64 c f 2 f 1 f 1 25 15 5 1f 1 20 1a 3 23 1 1d 38 1a 60 6 9a 3d9 3 11 3 d 3 da 6 c 4 1 f
   c 4 38 8 a 6 28 8 1e 2 c 4 2 e 9 27 158 8 e 2 d 3 b 3 39 1 1 4 10 2 c 4 a 7 93 1 5c a 1
   405 a6e0 20 111e 2 168e 2 1d31 f 26e 11a2 134b 5 212a"

/-- Ranges of the characters that are left out. -/
def ignored : String :=
  "ad 1 2a1 1 e0f 2 653 2 55 5 7fb 1 54 5 5 6 10f4 1 cc9b 10 ef 1 a0 1 bcff 4 14cf 8 c2f85
   f0"

/-- Runs of characters that stand for one other character: the distance from the start
of the run before, the number of characters, the step from one to the next, and what
the first stands for; the others follow in the same step. -/
def single : String :=
  "41 1a 1 61 5f 1 1 20 a 1 1 61 8 2 1 32 3 1 1 3bc 4 1 1 31 1 1 1 6f 6 17 1 e0 18 7 1 f8
   28 18 2 101 34 2 2 135 5 3 2 13a 8 4 2 142 9 17 2 14b 2e 1 1 ff 1 3 2 17a 6 1 1 73 2 1
   1 253 1 2 2 183 4 1 1 254 1 1 1 188 2 2 1 256 2 1 1 18c 3 1 1 1dd 1 1 1 259 1 1 1 25b 1
   1 1 192 2 1 1 260 1 1 1 263 2 1 1 269 1 1 1 268 1 1 1 199 4 1 1 26f 1 1 1 272 2 1 1 275
   1 3 2 1a1 6 1 1 280 1 1 1 1a8 2 1 1 283 3 1 1 1ad 2 1 1 288 1 1 1 1b0 2 2 1 28a 2 2 2
   1b4 4 1 1 292 1 1 1 1b9 4 1 1 1bd 11 8 2 1ce 11 9 2 1df 16 1 1 1f5 2 1 1 195 1 1 1 1bf
   1 14 2 1f9 28 1 1 19e 2 9 2 223 18 1 1 2c65 1 1 1 23c 2 1 1 19a 1 1 1 2c66 3 1 1 242 2
   1 1 180 1 1 1 289 1 1 1 28c 1 5 2 247 6a 2 2 68 1 1 1 266 2 1 1 72 1 1 1 279 1 1 1 27b
   1 1 1 281 1 1 1 77 1 1 1 79 28 1 1 263 1 1 1 6c 1 1 1 73 1 1 1 78 1 1 1 295 5c 2 1 300
   3 1 1 313 2 1 1 3b9 2b 2 2 371 4 1 1 2b9 2 1 1 377 8 1 1 3b 1 1 1 3f3 7 1 1 3ac 1 1 1
   b7 1 3 1 3ad 4 1 1 3cc 2 2 1 3cd 3 11 1 3b1 12 9 1 3c3 2c 1 1 3d7 1 1 1 3b2 1 1 1 3b8 1
   1 1 3c5 1 1 1 3cd 1 1 1 3cb 1 1 1 3c6 1 1 1 3c0 2 c 2 3d9 18 1 1 3ba 1 1 1 3c1 1 1 1
   3c3 2 1 1 3b8 1 1 1 3b5 2 1 1 3f8 2 1 1 3c3 1 1 1 3fb 3 3 1 37b 3 10 1 450 10 20 1 430
   50 11 2 461 2a 1b 2 48b 36 1 1 4cf 1 7 2 4c2 f 30 2 4d1 61 26 1 561 9db 1 1 f0b 194 26
   1 2d00 27 1 1 2d27 6 1 1 2d2d 2f 1 1 10dc 2fc 6 1 13f0 888 1 1 432 1 1 1 434 1 1 1 43e
   1 2 1 441 2 1 1 442 1 1 1 44a 1 1 1 463 1 1 1 a64b 1 1 1 1c8a 7 2b 1 10d0 2d 3 1 10fd
   6f 1 1 61 1 1 1 e6 1 2 2 62 3 5 2 65 1 1 1 1dd 2 4 2 68 8 1 1 6f 1 1 1 223 1 1 1 70 1 1
   1 72 1 2 1 74 2 1 1 77 1 1 1 61 1 2 1 250 2 1 1 1d02 1 1 1 62 1 2 1 64 2 1 1 259 1 2 1
   25b 2 1 1 67 2 1 1 6b 1 2 2 6d 1 1 1 14b 2 1 1 254 1 2 1 1d16 2 1 1 70 1 2 1 74 2 1 1
   1d1d 1 1 1 26f 1 1 1 76 1 1 1 1d25 1 3 1 3b2 3 2 1 3c6 2 1 1 69 1 1 1 72 1 2 1 75 2 2 1
   3b2 2 1 1 3c1 1 2 1 3c6 f 1 1 43d 23 1 1 252 1 1 1 63 1 1 1 255 1 1 1 f0 1 1 1 25c 1 1
   1 66 1 1 1 25f 1 1 1 261 1 1 1 265 1 3 1 268 3 1 1 1d7b 1 1 1 29d 1 1 1 26d 1 1 1 1d85
   1 1 1 29f 1 1 1 271 1 1 1 270 1 4 1 272 4 1 1 278 1 2 1 282 2 1 1 1ab 1 2 1 289 2 1 1
   1d1c 1 2 1 28b 2 1 1 7a 1 3 1 290 3 1 1 3b8 41 4b 2 1e01 9b 1 1 1e61 3 1 1 df 2 30 2
   1ea1 68 8 1 1f00 10 6 1 1f10 10 8 1 1f20 10 8 1 1f30 10 6 1 1f40 11 4 2 1f51 f 8 1 1f60
   9 1 1 3ac 2 1 1 3ad 2 1 1 3ae 2 1 1 3af 2 1 1 3cc 2 1 1 3cd 2 1 1 3ce 3b 2 1 1fb0 2 1 1
   1f70 1 1 1 3ac 3 1 1 3b9 a 2 2 1f72 1 1 1 3ad 2 1 1 3ae 8 1 1 390 5 2 1 1fd0 2 1 1 1f76
   1 1 1 3af 8 1 1 3b0 5 2 1 1fe0 2 1 1 1f7a 1 1 1 3cd 1 1 1 1fe5 3 1 1 60 9 1 1 1f78 1 2
   2 3cc 1 1 1 1f7c 6 1 1 20 1 1 1 20 1 1 1 20 1 1 1 20 1 1 1 20 1 1 1 20 1 1 1 20 1 1 1
   20 1 1 1 20 1 1 1 20 1 1 1 20 7 1 1 2010 1e 1 1 20 30 1 1 20 11 1 1 30 1 1 1 69 3 6 1
   34 6 1 1 2b 1 1 1 2212 1 1 1 3d 1 2 1 28 2 1 1 6e 1 a 1 30 a 1 1 2b 1 1 1 2212 1 1 1 3d
   1 2 1 28 3 1 1 61 1 1 1 65 1 1 1 6f 1 1 1 78 1 1 1 259 1 1 1 68 1 4 1 6b 4 1 1 70 1 2 1
   73 67 1 1 63 5 1 1 25b 3 2 1 67 2 1 1 68 1 1 1 68 1 1 1 68 1 1 1 127 1 1 1 69 1 1 1 69
   1 1 1 6c 1 2 2 6c 6 3 1 70 3 1 1 72 1 1 1 72 7 1 1 7a 2 1 1 3c9 2 1 1 7a 2 1 1 6b 1 1 1
   e5 1 2 1 62 3 1 1 65 1 2 1 65 2 1 1 214e 1 1 1 6d 1 1 1 6f 1 4 1 5d0 4 1 1 69 3 1 1 3c0
   1 1 1 3b3 1 1 1 3b3 1 1 1 3c0 1 1 1 2211 5 1 1 64 1 2 1 64 2 2 1 69 18 1 1 69 4 1 1 76
   5 1 1 78 3 1 1 6c 1 2 1 63 2 1 1 6d 1 1 1 69 4 1 1 76 5 1 1 78 3 1 1 6c 1 2 1 63 2 1 1
   6d 4 1 1 2184 1a6 2 1 3008 137 9 1 31 56 1a 1 61 1a 1a 1 61 1a 1 1 30 716 30 1 2c30 60
   1 1 2c61 2 1 1 26b 1 1 1 1d7d 1 1 1 27d 3 3 2 2c68 6 1 1 251 1 1 1 271 1 1 1 250 1 1 1
   252 2 1 1 2c73 3 1 1 2c76 7 1 1 6a 1 1 1 76 1 2 1 23f 2 32 2 2c81 6b 2 2 2cec 7 1 1
   2cf3 7d 1 1 2d61 130 1 1 6bcd 54 1 1 9f9f d 1 1 4e00 1 1 1 4e28 1 1 1 4e36 1 1 1 4e3f 1
   1 1 4e59 1 1 1 4e85 1 1 1 4e8c 1 1 1 4ea0 1 1 1 4eba 1 1 1 513f 1 1 1 5165 1 1 1 516b 1
   1 1 5182 1 1 1 5196 1 1 1 51ab 1 1 1 51e0 1 1 1 51f5 1 1 1 5200 1 1 1 529b 1 1 1 52f9 1
   1 1 5315 1 1 1 531a 1 1 1 5338 1 1 1 5341 1 1 1 535c 1 1 1 5369 1 1 1 5382 1 1 1 53b6 1
   1 1 53c8 1 1 1 53e3 1 1 1 56d7 1 1 1 571f 1 1 1 58eb 1 1 1 5902 1 1 1 590a 1 1 1 5915 1
   1 1 5927 1 1 1 5973 1 1 1 5b50 1 1 1 5b80 1 1 1 5bf8 1 1 1 5c0f 1 1 1 5c22 1 1 1 5c38 1
   1 1 5c6e 1 1 1 5c71 1 1 1 5ddb 1 1 1 5de5 1 1 1 5df1 1 1 1 5dfe 1 1 1 5e72 1 1 1 5e7a 1
   1 1 5e7f 1 1 1 5ef4 1 1 1 5efe 1 1 1 5f0b 1 1 1 5f13 1 1 1 5f50 1 1 1 5f61 1 1 1 5f73 1
   1 1 5fc3 1 1 1 6208 1 1 1 6236 1 1 1 624b 1 1 1 652f 1 1 1 6534 1 1 1 6587 1 1 1 6597 1
   1 1 65a4 1 1 1 65b9 1 1 1 65e0 1 1 1 65e5 1 1 1 66f0 1 1 1 6708 1 1 1 6728 1 1 1 6b20 1
   1 1 6b62 1 1 1 6b79 1 1 1 6bb3 1 1 1 6bcb 1 1 1 6bd4 1 1 1 6bdb 1 1 1 6c0f 1 1 1 6c14 1
   1 1 6c34 1 1 1 706b 1 1 1 722a 1 1 1 7236 1 1 1 723b 1 1 1 723f 1 1 1 7247 1 1 1 7259 1
   1 1 725b 1 1 1 72ac 1 1 1 7384 1 1 1 7389 1 1 1 74dc 1 1 1 74e6 1 1 1 7518 1 1 1 751f 1
   1 1 7528 1 1 1 7530 1 1 1 758b 1 1 1 7592 1 1 1 7676 1 1 1 767d 1 1 1 76ae 1 1 1 76bf 1
   1 1 76ee 1 1 1 77db 1 1 1 77e2 1 1 1 77f3 1 1 1 793a 1 1 1 79b8 1 1 1 79be 1 1 1 7a74 1
   1 1 7acb 1 1 1 7af9 1 1 1 7c73 1 1 1 7cf8 1 1 1 7f36 1 1 1 7f51 1 1 1 7f8a 1 1 1 7fbd 1
   1 1 8001 1 1 1 800c 1 1 1 8012 1 1 1 8033 1 1 1 807f 1 1 1 8089 1 1 1 81e3 1 1 1 81ea 1
   1 1 81f3 1 1 1 81fc 1 1 1 820c 1 1 1 821b 1 1 1 821f 1 1 1 826e 1 1 1 8272 1 1 1 8278 1
   1 1 864d 1 1 1 866b 1 1 1 8840 1 1 1 884c 1 1 1 8863 1 1 1 897e 1 1 1 898b 1 1 1 89d2 1
   1 1 8a00 1 1 1 8c37 1 1 1 8c46 1 1 1 8c55 1 1 1 8c78 1 1 1 8c9d 1 1 1 8d64 1 1 1 8d70 1
   1 1 8db3 1 1 1 8eab 1 1 1 8eca 1 1 1 8f9b 1 1 1 8fb0 1 1 1 8fb5 1 1 1 9091 1 1 1 9149 1
   1 1 91c6 1 1 1 91cc 1 1 1 91d1 1 1 1 9577 1 1 1 9580 1 1 1 961c 1 1 1 96b6 1 1 1 96b9 1
   1 1 96e8 1 1 1 9751 1 1 1 975e 1 1 1 9762 1 1 1 9769 1 1 1 97cb 1 1 1 97ed 1 1 1 97f3 1
   1 1 9801 1 1 1 98a8 1 1 1 98db 1 1 1 98df 1 1 1 9996 1 1 1 9999 1 1 1 99ac 1 1 1 9aa8 1
   1 1 9ad8 1 1 1 9adf 1 1 1 9b25 1 1 1 9b2f 1 1 1 9b32 1 1 1 9b3c 1 1 1 9b5a 1 1 1 9ce5 1
   1 1 9e75 1 1 1 9e7f 1 1 1 9ea5 1 1 1 9ebb 1 1 1 9ec3 1 1 1 9ecd 1 1 1 9ed1 1 1 1 9ef9 1
   1 1 9efd 1 1 1 9f0e 1 1 1 9f13 1 1 1 9f20 1 1 1 9f3b 1 1 1 9f4a 1 1 1 9f52 1 1 1 9f8d 1
   1 1 9f9c 1 1 1 9fa0 2b 1 1 20 2 1 1 2e 34 1 1 3012 2 1 1 5341 1 2 1 5344 f8 2 1 1100 2
   2 2 11aa 1 1 1 1102 2 1 1 11ad 1 3 1 1103 3 6 1 11b0 6 1 1 111a 1 3 1 1106 3 1 1 1121 1
   a 1 1109 a 15 1 1161 16 2 1 1114 2 2 1 11c7 2 1 1 11cc 1 1 1 11ce 1 1 1 11d3 1 1 1 11d7
   1 1 1 11d9 1 1 1 111c 1 1 1 11dd 1 1 1 11df 1 2 1 111d 2 1 1 1120 1 2 1 1122 2 1 1 1127
   1 1 1 1129 1 5 1 112b 5 1 1 1132 1 1 1 1136 1 1 1 1140 1 1 1 1147 1 1 1 114c 1 2 1 11f1
   2 3 1 1157 3 2 1 1184 2 1 1 1188 1 2 1 1191 2 1 1 1194 1 1 1 119e 1 1 1 11a1 4 1 1 4e00
   1 1 1 4e8c 1 1 1 4e09 1 1 1 56db 1 1 1 4e0a 1 1 1 4e2d 1 1 1 4e0b 1 1 1 7532 1 1 1 4e59
   1 1 1 4e19 1 1 1 4e01 1 1 1 5929 1 1 1 5730 1 1 1 4eba a5 1 1 554f 1 1 1 5e7c 1 1 1
   6587 1 1 1 7b8f 19 1 1 1100 1 2 1 1102 2 3 1 1105 3 1 1 1109 1 2 1 110b 2 5 1 110e 5 1
   1 ac00 1 1 1 b098 1 1 1 b2e4 1 1 1 b77c 1 1 1 b9c8 1 1 1 bc14 1 1 1 c0ac 1 1 1 c544 1 1
   1 c790 1 1 1 cc28 1 1 1 ce74 1 1 1 d0c0 1 1 1 d30c 1 1 1 d558 3 1 1 c6b0 2 1 1 4e00 1 1
   1 4e8c 1 1 1 4e09 1 1 1 56db 1 1 1 4e94 1 1 1 516d 1 1 1 4e03 1 1 1 516b 1 1 1 4e5d 1 1
   1 5341 1 1 1 6708 1 1 1 706b 1 1 1 6c34 1 1 1 6728 1 1 1 91d1 1 1 1 571f 1 1 1 65e5 1 1
   1 682a 1 1 1 6709 1 1 1 793e 1 1 1 540d 1 1 1 7279 1 1 1 8ca1 1 1 1 795d 1 1 1 52b4 1 1
   1 79d8 1 1 1 7537 1 1 1 5973 1 1 1 9069 1 1 1 512a 1 1 1 5370 1 1 1 6ce8 1 1 1 9805 1 1
   1 4f11 1 1 1 5199 1 1 1 6b63 1 1 1 4e0a 1 1 1 4e2d 1 1 1 4e0b 1 1 1 5de6 1 1 1 53f3 1 1
   1 533b 1 1 1 5b97 1 1 1 5b66 1 1 1 76e3 1 1 1 4f01 1 1 1 8cc7 1 1 1 5354 1 1 1 591c 20
   1 1 30a2 1 1 1 30a4 1 1 1 30a6 1 1 1 30a8 1 2 1 30aa 2 1 1 30ad 1 1 1 30af 1 1 1 30b1 1
   1 1 30b3 1 1 1 30b5 1 1 1 30b7 1 1 1 30b9 1 1 1 30bb 1 1 1 30bd 1 1 1 30bf 1 1 1 30c1 1
   1 1 30c4 1 1 1 30c6 1 1 1 30c8 1 6 1 30ca 6 1 1 30d2 1 1 1 30d5 1 1 1 30d8 1 1 1 30db 1
   5 1 30de 5 1 1 30e4 1 1 1 30e6 1 6 1 30e8 6 4 1 30ef 7345 17 2 a641 40 e 2 a681 1c 1 1
   44a 1 1 1 44c 85 7 2 a723 10 1f 2 a733 3e 1 1 a76f 9 2 2 a77a 4 1 1 1d79 1 5 2 a77f d 1
   1 a78c 2 1 1 265 3 2 2 a791 6 a 2 a797 14 1 1 266 1 1 1 25c 1 1 1 261 1 1 1 26c 1 1 1
   26a 2 1 1 29e 1 1 1 287 1 1 1 29d 1 1 1 ab53 1 8 2 a7b5 10 1 1 a794 1 1 1 282 1 1 1
   1d8e 1 2 2 a7c8 4 1 1 264 1 8 2 a7cd 10 1 1 19b 15 1 1 73 1 1 1 63 1 1 1 66 1 1 1 71 1
   1 1 a7f6 3 1 1 127 1 1 1 153 363 1 1 a727 1 1 1 ab37 1 1 1 26b 1 1 1 ab52 a 1 1 28d 7
   50 1 13a0 4d90 1 1 8c48 1 1 1 66f4 1 1 1 8eca 1 1 1 8cc8 1 1 1 6ed1 1 1 1 4e32 1 1 1
   53e5 1 1 1 9f9c 1 1 1 9f9c 1 1 1 5951 1 1 1 91d1 1 1 1 5587 1 1 1 5948 1 1 1 61f6 1 1 1
   7669 1 1 1 7f85 1 1 1 863f 1 1 1 87ba 1 1 1 88f8 1 1 1 908f 1 1 1 6a02 1 1 1 6d1b 1 1 1
   70d9 1 1 1 73de 1 1 1 843d 1 1 1 916a 1 1 1 99f1 1 1 1 4e82 1 1 1 5375 1 1 1 6b04 1 1 1
   721b 1 1 1 862d 1 1 1 9e1e 1 1 1 5d50 1 1 1 6feb 1 1 1 85cd 1 1 1 8964 1 1 1 62c9 1 1 1
   81d8 1 1 1 881f 1 1 1 5eca 1 1 1 6717 1 1 1 6d6a 1 1 1 72fc 1 1 1 90ce 1 1 1 4f86 1 1 1
   51b7 1 1 1 52de 1 1 1 64c4 1 1 1 6ad3 1 1 1 7210 1 1 1 76e7 1 1 1 8001 1 1 1 8606 1 1 1
   865c 1 1 1 8def 1 1 1 9732 1 1 1 9b6f 1 1 1 9dfa 1 1 1 788c 1 1 1 797f 1 1 1 7da0 1 1 1
   83c9 1 1 1 9304 1 1 1 9e7f 1 1 1 8ad6 1 1 1 58df 1 1 1 5f04 1 1 1 7c60 1 1 1 807e 1 1 1
   7262 1 1 1 78ca 1 1 1 8cc2 1 1 1 96f7 1 1 1 58d8 1 1 1 5c62 1 1 1 6a13 1 1 1 6dda 1 1 1
   6f0f 1 1 1 7d2f 1 1 1 7e37 1 1 1 964b 1 1 1 52d2 1 1 1 808b 1 1 1 51dc 1 1 1 51cc 1 1 1
   7a1c 1 1 1 7dbe 1 1 1 83f1 1 1 1 9675 1 1 1 8b80 1 1 1 62cf 1 1 1 6a02 1 1 1 8afe 1 1 1
   4e39 1 1 1 5be7 1 1 1 6012 1 1 1 7387 1 1 1 7570 1 1 1 5317 1 1 1 78fb 1 1 1 4fbf 1 1 1
   5fa9 1 1 1 4e0d 1 1 1 6ccc 1 1 1 6578 1 1 1 7d22 1 1 1 53c3 1 1 1 585e 1 1 1 7701 1 1 1
   8449 1 1 1 8aaa 1 1 1 6bba 1 1 1 8fb0 1 1 1 6c88 1 1 1 62fe 1 1 1 82e5 1 1 1 63a0 1 1 1
   7565 1 1 1 4eae 1 1 1 5169 1 1 1 51c9 1 1 1 6881 1 1 1 7ce7 1 1 1 826f 1 1 1 8ad2 1 1 1
   91cf 1 1 1 52f5 1 1 1 5442 1 1 1 5973 1 1 1 5eec 1 1 1 65c5 1 1 1 6ffe 1 1 1 792a 1 1 1
   95ad 1 1 1 9a6a 1 1 1 9e97 1 1 1 9ece 1 1 1 529b 1 1 1 66c6 1 1 1 6b77 1 1 1 8f62 1 1 1
   5e74 1 1 1 6190 1 1 1 6200 1 1 1 649a 1 1 1 6f23 1 1 1 7149 1 1 1 7489 1 1 1 79ca 1 1 1
   7df4 1 1 1 806f 1 1 1 8f26 1 1 1 84ee 1 1 1 9023 1 1 1 934a 1 1 1 5217 1 1 1 52a3 1 1 1
   54bd 1 1 1 70c8 1 1 1 88c2 1 1 1 8aaa 1 1 1 5ec9 1 1 1 5ff5 1 1 1 637b 1 1 1 6bae 1 1 1
   7c3e 1 1 1 7375 1 1 1 4ee4 1 1 1 56f9 1 1 1 5be7 1 1 1 5dba 1 1 1 601c 1 1 1 73b2 1 1 1
   7469 1 1 1 7f9a 1 1 1 8046 1 1 1 9234 1 1 1 96f6 1 1 1 9748 1 1 1 9818 1 1 1 4f8b 1 1 1
   79ae 1 1 1 91b4 1 1 1 96b8 1 1 1 60e1 1 1 1 4e86 1 1 1 50da 1 1 1 5bee 1 1 1 5c3f 1 1 1
   6599 1 1 1 6a02 1 1 1 71ce 1 1 1 7642 1 1 1 84fc 1 1 1 907c 1 1 1 9f8d 1 1 1 6688 1 1 1
   962e 1 1 1 5289 1 1 1 677b 1 1 1 67f3 1 1 1 6d41 1 1 1 6e9c 1 1 1 7409 1 1 1 7559 1 1 1
   786b 1 1 1 7d10 1 1 1 985e 1 1 1 516d 1 1 1 622e 1 1 1 9678 1 1 1 502b 1 1 1 5d19 1 1 1
   6dea 1 1 1 8f2a 1 1 1 5f8b 1 1 1 6144 1 1 1 6817 1 1 1 7387 1 1 1 9686 1 1 1 5229 1 1 1
   540f 1 1 1 5c65 1 1 1 6613 1 1 1 674e 1 1 1 68a8 1 1 1 6ce5 1 1 1 7406 1 1 1 75e2 1 1 1
   7f79 1 1 1 88cf 1 1 1 88e1 1 1 1 91cc 1 1 1 96e2 1 1 1 533f 1 1 1 6eba 1 1 1 541d 1 1 1
   71d0 1 1 1 7498 1 1 1 85fa 1 1 1 96a3 1 1 1 9c57 1 1 1 9e9f 1 1 1 6797 1 1 1 6dcb 1 1 1
   81e8 1 1 1 7acb 1 1 1 7b20 1 1 1 7c92 1 1 1 72c0 1 1 1 7099 1 1 1 8b58 1 1 1 4ec0 1 1 1
   8336 1 1 1 523a 1 1 1 5207 1 1 1 5ea6 1 1 1 62d3 1 1 1 7cd6 1 1 1 5b85 1 1 1 6d1e 1 1 1
   66b4 1 1 1 8f3b 1 1 1 884c 1 1 1 964d 1 1 1 898b 1 1 1 5ed3 1 1 1 5140 1 1 1 55c0 3 1 1
   585a 2 1 1 6674 3 1 1 51de 1 1 1 732a 1 1 1 76ca 1 1 1 793c 1 1 1 795e 1 1 1 7965 1 1 1
   798f 1 1 1 9756 1 1 1 7cbe 1 1 1 7fbd 2 1 1 8612 2 1 1 8af8 3 1 1 9038 1 1 1 90fd 4 1 1
   98ef 1 1 1 98fc 1 1 1 9928 1 1 1 9db4 1 1 1 90de 1 1 1 96b7 1 1 1 4fae 1 1 1 50e7 1 1 1
   514d 1 1 1 52c9 1 1 1 52e4 1 1 1 5351 1 1 1 559d 1 1 1 5606 1 1 1 5668 1 1 1 5840 1 1 1
   58a8 1 1 1 5c64 1 1 1 5c6e 1 1 1 6094 1 1 1 6168 1 1 1 618e 1 1 1 61f2 1 1 1 654f 1 1 1
   65e2 1 1 1 6691 1 1 1 6885 1 1 1 6d77 1 1 1 6e1a 1 1 1 6f22 1 1 1 716e 1 1 1 722b 1 1 1
   7422 1 1 1 7891 1 1 1 793e 1 1 1 7949 1 1 1 7948 1 1 1 7950 1 1 1 7956 1 1 1 795d 1 2 1
   798d 2 1 1 7a40 1 1 1 7a81 1 1 1 7bc0 1 1 1 7df4 1 1 1 7e09 1 1 1 7e41 1 1 1 7f72 1 1 1
   8005 1 1 1 81ed 1 1 1 8279 1 1 1 8279 1 1 1 8457 1 1 1 8910 1 1 1 8996 1 1 1 8b01 1 1 1
   8b39 1 1 1 8cd3 1 1 1 8d08 1 1 1 8fb6 1 1 1 9038 1 1 1 96e3 1 1 1 97ff 1 1 1 983b 1 1 1
   6075 1 1 1 242ee 1 1 1 8218 3 1 1 4e26 1 1 1 51b5 1 1 1 5168 1 1 1 4f80 1 1 1 5145 1 1
   1 5180 1 1 1 52c7 1 1 1 52fa 1 1 1 559d 1 1 1 5555 1 1 1 5599 1 1 1 55e2 1 1 1 585a 1 1
   1 58b3 1 1 1 5944 1 1 1 5954 1 1 1 5a62 1 1 1 5b28 1 1 1 5ed2 1 1 1 5ed9 1 1 1 5f69 1 1
   1 5fad 1 1 1 60d8 1 1 1 614e 1 1 1 6108 1 1 1 618e 1 1 1 6160 1 1 1 61f2 1 1 1 6234 1 1
   1 63c4 1 1 1 641c 1 1 1 6452 1 1 1 6556 1 1 1 6674 1 1 1 6717 1 1 1 671b 1 1 1 6756 1 1
   1 6b79 1 1 1 6bba 1 1 1 6d41 1 1 1 6edb 1 1 1 6ecb 1 1 1 6f22 1 1 1 701e 1 1 1 716e 1 1
   1 77a7 1 1 1 7235 1 1 1 72af 1 1 1 732a 1 1 1 7471 1 1 1 7506 1 1 1 753b 1 1 1 761d 1 1
   1 761f 1 1 1 76ca 1 1 1 76db 1 1 1 76f4 1 1 1 774a 1 1 1 7740 1 1 1 78cc 1 1 1 7ab1 1 1
   1 7bc0 1 1 1 7c7b 1 1 1 7d5b 1 1 1 7df4 1 1 1 7f3e 1 1 1 8005 1 1 1 8352 1 1 1 83ef 1 1
   1 8779 1 1 1 8941 1 1 1 8986 1 1 1 8996 1 1 1 8abf 1 1 1 8af8 1 1 1 8acb 1 1 1 8b01 1 1
   1 8afe 1 1 1 8aed 1 1 1 8b39 1 1 1 8b8a 1 1 1 8d08 1 1 1 8f38 1 1 1 9072 1 1 1 9199 1 1
   1 9276 1 1 1 967c 1 1 1 96e3 1 1 1 9756 1 1 1 97db 1 1 1 97ff 1 1 1 980b 1 1 1 983b 1 1
   1 9b12 1 1 1 9f9c 1 1 1 2284a 1 1 1 22844 1 1 1 233d5 1 1 1 3b9d 1 1 1 4018 1 1 1 4039
   1 1 1 25249 1 1 1 25cd0 1 1 1 27ed3 1 1 1 9f43 1 1 1 9f8e 47 1 1 5e2 1 1 1 5d0 1 2 1
   5d3 2 3 1 5db 3 1 1 5e8 1 1 1 5ea 1 1 1 2b 27 1 1 671 1 1 1 671 1 1 1 67b 1 1 1 67b 1 1
   1 67b 1 1 1 67b 1 1 1 67e 1 1 1 67e 1 2 2 67e 1 2 2 67e 3 1 1 680 1 1 1 680 1 1 1 67a 1
   1 1 67a 1 1 1 67a 1 1 1 67a 1 1 1 67f 1 1 1 67f 1 1 1 67f 1 1 1 67f 1 1 1 679 1 1 1 679
   1 1 1 679 1 1 1 679 1 1 1 6a4 1 1 1 6a4 1 2 2 6a4 1 2 2 6a4 3 1 1 6a6 1 1 1 6a6 1 1 1
   684 1 1 1 684 1 1 1 684 1 1 1 684 1 1 1 683 1 1 1 683 1 1 1 683 1 1 1 683 1 1 1 686 1 1
   1 686 1 1 1 686 1 2 1 686 2 1 1 687 1 1 1 687 1 1 1 687 1 1 1 68d 1 1 1 68d 1 2 2 68c 1
   2 2 68c 3 1 1 688 1 1 1 688 1 1 1 698 1 1 1 698 1 1 1 691 1 1 1 691 1 1 1 6a9 1 1 1 6a9
   1 1 1 6a9 1 1 1 6a9 1 1 1 6af 1 1 1 6af 1 1 1 6af 1 1 1 6af 1 1 1 6b3 1 1 1 6b3 1 1 1
   6b3 1 1 1 6b3 1 1 1 6b1 1 1 1 6b1 1 1 1 6b1 1 1 1 6b1 1 1 1 6ba 1 2 1 6ba 2 1 1 6bb 1 1
   1 6bb 1 1 1 6bb 1 1 1 6c0 1 2 1 6c0 2 1 1 6c1 1 1 1 6c1 1 1 1 6c1 1 1 1 6be 1 1 1 6be 1
   1 1 6be 1 1 1 6be 1 1 1 6d2 1 2 1 6d2 2 1 1 6d3 22 1 1 6ad 1 1 1 6ad 1 1 1 6ad 1 1 1
   6ad 1 1 1 6c7 1 1 1 6c7 1 2 2 6c6 1 2 2 6c6 4 1 1 6cb 1 1 1 6cb 1 1 1 6c5 1 1 1 6c5 1 1
   1 6c9 1 1 1 6c9 1 1 1 6d0 1 1 1 6d0 1 1 1 6d0 1 1 1 6d0 1 1 1 649 1 1 1 649 13 1 1 6cc
   1 1 1 6cc 1 1 1 6cc 1 1 1 6cc 211 1 1 2c 1 1 1 3001 2 2 1 3a 2 1 1 21 1 1 1 3f 1 2 1
   3016 1a 1 1 2014 1 1 1 2013 1 1 1 5f 1 1 1 5f 1 2 1 28 2 1 1 7b 1 1 1 7d 1 2 1 3014 2 2
   1 3010 2 2 1 300a 2 2 1 3008 2 4 1 300c 6 1 1 5b 1 1 1 5d 5 1 1 5f 1 1 1 5f 1 1 1 5f 1
   1 1 2c 1 1 1 3001 3 1 1 3b 1 1 1 3a 1 1 1 3f 1 1 1 21 1 1 1 2014 1 2 1 28 2 1 1 7b 1 1
   1 7d 1 2 1 3014 2 1 1 23 1 1 1 26 1 2 1 2a 2 1 1 2d 1 1 1 3c 1 1 1 3e 1 1 1 3d 2 1 1 5c
   1 2 1 24 2 1 1 40 15 2 1 621 2 2 1 622 2 2 1 623 2 2 1 624 2 2 1 625 2 1 1 626 1 1 1
   626 1 2 1 626 2 2 1 627 2 1 1 628 1 1 1 628 1 2 1 628 2 2 1 629 2 1 1 62a 1 1 1 62a 1 2
   1 62a 2 1 1 62b 1 1 1 62b 1 2 1 62b 2 1 1 62c 1 1 1 62c 1 2 1 62c 2 1 1 62d 1 1 1 62d 1
   2 1 62d 2 1 1 62e 1 1 1 62e 1 2 1 62e 2 2 1 62f 2 2 1 630 2 2 1 631 2 2 1 632 2 1 1 633
   1 1 1 633 1 2 1 633 2 1 1 634 1 1 1 634 1 2 1 634 2 1 1 635 1 1 1 635 1 2 1 635 2 1 1
   636 1 1 1 636 1 2 1 636 2 1 1 637 1 1 1 637 1 2 1 637 2 1 1 638 1 1 1 638 1 2 1 638 2 1
   1 639 1 1 1 639 1 2 1 639 2 1 1 63a 1 1 1 63a 1 1 1 63a 1 1 1 641 1 1 1 641 1 1 1 641 1
   2 1 641 2 1 1 642 1 1 1 642 1 2 1 642 2 1 1 643 1 1 1 643 1 2 1 643 2 1 1 644 1 1 1 644
   1 2 1 644 2 1 1 645 1 1 1 645 1 2 1 645 2 1 1 646 1 1 1 646 1 2 1 646 2 1 1 647 1 1 1
   647 1 2 1 647 2 2 1 648 2 2 1 649 2 1 1 64a 1 1 1 64a 1 1 1 64a d 20 1 21 20 1a 1 61 1a
   24 1 5b 24 2 1 2985 2 1 1 2e 1 2 1 300c 2 1 1 3001 1 1 1 30fb 1 1 1 30f2 1 1 1 30a1 1 1
   1 30a3 1 1 1 30a5 1 1 1 30a7 1 1 1 30a9 1 1 1 30e3 1 1 1 30e5 1 1 1 30e7 1 1 1 30c3 1 1
   1 30fc 1 1 1 30a2 1 1 1 30a4 1 1 1 30a6 1 1 1 30a8 1 2 1 30aa 2 1 1 30ad 1 1 1 30af 1 1
   1 30b1 1 1 1 30b3 1 1 1 30b5 1 1 1 30b7 1 1 1 30b9 1 1 1 30bb 1 1 1 30bd 1 1 1 30bf 1 1
   1 30c1 1 1 1 30c4 1 1 1 30c6 1 1 1 30c8 1 6 1 30ca 6 1 1 30d2 1 1 1 30d5 1 1 1 30d8 1 1
   1 30db 1 5 1 30de 5 1 1 30e4 1 1 1 30e6 1 6 1 30e8 6 1 1 30ef 1 1 1 30f3 1 2 1 3099 3 2
   1 1100 2 2 2 11aa 1 1 1 1102 2 1 1 11ad 1 3 1 1103 3 6 1 11b0 6 1 1 111a 1 3 1 1106 3 1
   1 1121 1 a 1 1109 d 6 1 1161 8 6 1 1167 8 6 1 116d 8 3 1 1173 6 2 1 a2 2 1 1 ac 2 1 1
   a6 1 1 1 a5 1 1 1 20a9 2 1 1 2502 1 4 1 2190 4 1 1 25a0 1 1 1 25cb 412 28 1 10428 b0 24
   1 104d8 c0 13 2 10597 1 5 2 10598 c 7 2 105a4 10 3 2 105b4 8 1 1 105bc 1ec 2 1 2d0 2 1
   1 e6 1 1 1 299 1 1 1 253 2 2 2 2a3 1 1 1 ab66 2 1 1 2a4 1 2 1 256 2 1 1 1d91 1 1 1 258
   1 1 1 25e 1 1 1 2a9 1 1 1 264 1 1 1 262 1 1 1 260 1 1 1 29b 1 1 1 127 1 1 1 29c 1 1 1
   267 1 1 1 284 1 2 1 2aa 2 1 1 26c 1 1 1 1df04 1 1 1 a78e 1 1 1 26e 1 1 1 1df05 1 1 1
   28e 1 1 1 1df06 1 1 1 f8 1 2 1 276 2 1 1 71 1 1 1 27a 1 1 1 1df08 1 2 1 27d 2 1 1 280 1
   1 1 2a8 1 1 1 2a6 1 1 1 ab67 1 1 1 2a7 1 1 1 288 1 1 1 2c71 2 1 1 28f 1 2 1 2a1 2 1 1
   298 1 3 1 1c0 3 1 1 1df0a 1 1 1 1df1e 4c6 33 1 10cc0 d0 16 1 10d70 b50 20 1 118c0 55a0
   20 1 16e60 60 19 1 16ebb 5e36 1a 1 61 1a a 1 30 710 1a 1 61 1a 1a 1 61 1a 1a 1 61 1a d
   2 61 1 3 2 62 8 9 2 6a 11 1a 1 61 1a 1a 1 61 1a 2 2 61 3 1 1 64 3 1 1 67 3 2 1 6a 4 4 1
   6e 5 8 1 73 8 4 1 61 5 b 2 66 3 3 2 69 8 5 2 71 a 1a 1 61 1a 1a 1 61 1a 2 1 61 3 4 1 64
   6 8 1 6a 9 7 1 73 8 1a 1 61 1a 2 1 61 3 4 1 64 5 5 1 69 6 1 1 6f 4 7 1 73 8 1a 1 61 1a
   1a 1 61 1a 1a 1 61 1a 1a 1 61 1a 1a 1 61 1a 1a 1 61 1a 1a 1 61 1a 1a 1 61 1a 1a 1 61 1a
   1a 1 61 1a 1a 1 61 1a 1a 1 61 1a 1a 1 61 1a 1 1 131 1 1 1 237 3 11 1 3b1 11 1 1 3b8 1 7
   1 3c3 7 1 1 2207 1 11 1 3b1 11 1 1 3c3 1 7 1 3c3 7 1 1 2202 1 1 1 3b5 1 1 1 3b8 1 1 1
   3ba 1 1 1 3c6 1 1 1 3c1 1 1 1 3c0 1 11 1 3b1 11 1 1 3b8 1 7 1 3c3 7 1 1 2207 1 11 1 3b1
   11 1 1 3c3 1 7 1 3c3 7 1 1 2202 1 1 1 3b5 1 1 1 3b8 1 1 1 3ba 1 1 1 3c6 1 1 1 3c1 1 1 1
   3c0 1 11 1 3b1 11 1 1 3b8 1 7 1 3c3 7 1 1 2207 1 11 1 3b1 11 1 1 3c3 1 7 1 3c3 7 1 1
   2202 1 1 1 3b5 1 1 1 3b8 1 1 1 3ba 1 1 1 3c6 1 1 1 3c1 1 1 1 3c0 1 11 1 3b1 11 1 1 3b8
   1 7 1 3c3 7 1 1 2207 1 11 1 3b1 11 1 1 3c3 1 7 1 3c3 7 1 1 2202 1 1 1 3b5 1 1 1 3b8 1 1
   1 3ba 1 1 1 3c6 1 1 1 3c1 1 1 1 3c0 1 11 1 3b1 11 1 1 3b8 1 7 1 3c3 7 1 1 2207 1 11 1
   3b1 11 1 1 3c3 1 7 1 3c3 7 1 1 2202 1 1 1 3b5 1 1 1 3b8 1 1 1 3ba 1 1 1 3c6 1 1 1 3c1 1
   1 1 3c0 1 1 1 3dd 1 1 1 3dd 3 a 1 30 a a 1 30 a a 1 30 a a 1 30 a a 1 30 83a 9 1 430 9
   3 1 43a 3 b 1 43e b 1 1 44b 1 2 1 44d 2 1 1 a689 1 1 1 4d9 1 1 1 456 1 1 1 458 1 1 1
   4e9 1 1 1 4af 1 1 1 4cf 1 9 1 430 9 2 1 43a 2 2 1 43e 2 1 1 441 1 6 1 443 6 2 1 44a 2 1
   1 491 1 1 1 456 1 1 1 455 1 1 1 45f 1 1 1 4ab 1 1 1 a651 1 1 1 4b1 893 22 1 1e922 500 2
   1 627 2 1 1 62c 1 1 1 62f 2 1 1 648 1 1 1 632 1 1 1 62d 1 1 1 637 1 1 1 64a 1 4 1 643 4
   1 1 633 1 1 1 639 1 1 1 641 1 1 1 635 1 1 1 642 1 1 1 631 1 1 1 634 1 2 1 62a 2 1 1 62e
   1 1 1 630 1 1 1 636 1 1 1 638 1 1 1 63a 1 1 1 66e 1 1 1 6ba 1 1 1 6a1 1 1 1 66f 2 1 1
   628 1 1 1 62c 2 1 1 647 3 1 1 62d 2 1 1 64a 1 4 1 643 4 1 1 633 1 1 1 639 1 1 1 641 1 1
   1 635 1 1 1 642 2 1 1 634 1 2 1 62a 2 1 1 62e 2 1 1 636 2 1 1 63a 7 1 1 62c 5 1 1 62d 2
   1 1 64a 2 2 2 644 3 1 1 633 1 1 1 639 2 1 1 635 1 1 1 642 2 1 1 634 3 1 1 62e 2 1 1 636
   2 1 1 63a 2 1 1 6ba 2 1 1 66f 2 1 1 628 1 1 1 62c 2 1 1 647 3 1 1 62d 1 1 1 637 1 1 1
   64a 1 2 2 643 3 1 1 646 1 1 1 633 1 1 1 639 1 1 1 641 1 1 1 635 1 1 1 642 2 1 1 634 1 2
   1 62a 2 1 1 62e 2 1 1 636 1 1 1 638 1 1 1 63a 1 1 1 66e 2 1 1 6a1 2 2 1 627 2 1 1 62c 1
   1 1 62f 1 2 1 647 2 1 1 632 1 1 1 62d 1 1 1 637 1 1 1 64a 2 3 1 644 3 1 1 633 1 1 1 639
   1 1 1 641 1 1 1 635 1 1 1 642 1 1 1 631 1 1 1 634 1 2 1 62a 2 1 1 62e 1 1 1 630 1 1 1
   636 1 1 1 638 1 1 1 63a 6 1 1 628 1 1 1 62c 1 1 1 62f 2 1 1 648 1 1 1 632 1 1 1 62d 1 1
   1 637 1 1 1 64a 2 3 1 644 3 1 1 633 1 1 1 639 1 1 1 641 1 1 1 635 1 1 1 642 1 1 1 631 1
   1 1 634 1 2 1 62a 2 1 1 62e 1 1 1 630 1 1 1 636 1 1 1 638 1 1 1 63a 270 1 1 63 1 1 1 72
   4 1a 1 61 d2 1 1 30b5 e 1 1 624b 1 1 1 5b57 1 1 1 53cc 1 1 1 30c7 1 1 1 4e8c 1 1 1 591a
   1 1 1 89e3 1 1 1 5929 1 1 1 4ea4 1 1 1 6620 1 1 1 7121 1 1 1 6599 1 1 1 524d 1 1 1 5f8c
   1 1 1 518d 1 1 1 65b0 1 1 1 521d 1 1 1 7d42 1 1 1 751f 1 1 1 8ca9 1 1 1 58f0 1 1 1 5439
   1 1 1 6f14 1 1 1 6295 1 1 1 6355 1 1 1 4e00 1 1 1 4e09 1 1 1 904a 1 1 1 5de6 1 1 1 4e2d
   1 1 1 53f3 1 1 1 6307 1 1 1 8d70 1 1 1 6253 1 1 1 7981 1 1 1 7a7a 1 1 1 5408 1 1 1 6e80
   1 1 1 6709 1 1 1 6708 1 1 1 7533 1 1 1 5272 1 1 1 55b6 1 1 1 914d 15 1 1 5f97 1 1 1
   53ef 99f a 1 30 fc10 1 1 4e3d 1 1 1 4e38 1 1 1 4e41 1 1 1 20122 1 1 1 4f60 1 1 1 4fae 1
   1 1 4fbb 1 1 1 5002 1 1 1 507a 1 1 1 5099 1 1 1 50e7 1 1 1 50cf 1 1 1 349e 1 1 1 2063a
   1 1 1 514d 1 1 1 5154 1 1 1 5164 1 1 1 5177 1 1 1 2051c 1 1 1 34b9 1 1 1 5167 1 1 1
   518d 1 1 1 2054b 1 1 1 5197 1 1 1 51a4 1 1 1 4ecc 1 1 1 51ac 1 1 1 51b5 1 1 1 291df 1 1
   1 51f5 1 1 1 5203 1 1 1 34df 1 1 1 523b 1 1 1 5246 1 1 1 5272 1 1 1 5277 1 1 1 3515 1 1
   1 52c7 1 1 1 52c9 1 1 1 52e4 1 1 1 52fa 1 2 1 5305 2 1 1 5317 1 1 1 5349 1 1 1 5351 1 1
   1 535a 1 1 1 5373 1 2 2 537d 1 1 1 537f 2 1 1 537f 1 1 1 20a2c 1 1 1 7070 1 1 1 53ca 1
   1 1 53df 1 1 1 20b63 1 1 1 53eb 1 1 1 53f1 1 1 1 5406 1 1 1 549e 1 1 1 5438 1 1 1 5448
   1 1 1 5468 1 1 1 54a2 1 1 1 54f6 1 1 1 5510 1 1 1 5553 1 1 1 5563 1 1 1 5584 1 1 1 5584
   1 1 1 5599 1 1 1 55ab 1 1 1 55b3 1 1 1 55c2 1 1 1 5716 1 1 1 5606 1 1 1 5717 1 1 1 5651
   1 1 1 5674 1 1 1 5207 1 1 1 58ee 1 1 1 57ce 1 1 1 57f4 1 1 1 580d 1 1 1 578b 1 1 1 5832
   1 1 1 5831 1 1 1 58ac 1 1 1 214e4 1 1 1 58f2 1 1 1 58f7 1 1 1 5906 1 1 1 591a 1 1 1
   5922 1 1 1 5962 1 1 1 216a8 1 1 1 216ea 1 1 1 59ec 1 1 1 5a1b 1 1 1 5a27 1 1 1 59d8 1 1
   1 5a66 1 1 1 36ee 1 1 1 36fc 1 1 1 5b08 1 1 1 5b3e 1 1 1 5b3e 1 1 1 219c8 1 1 1 5bc3 1
   1 1 5bd8 1 1 1 5be7 1 1 1 5bf3 1 1 1 21b18 1 1 1 5bff 1 1 1 5c06 1 1 1 5f53 1 1 1 5c22
   1 1 1 3781 1 1 1 5c60 1 1 1 5c6e 1 1 1 5cc0 1 1 1 5c8d 1 2 2 21de4 1 1 1 5d43 2 1 1
   5d6e 1 1 1 5d6b 1 1 1 5d7c 1 2 1 5de1 2 1 1 382f 1 1 1 5dfd 1 1 1 5e28 1 1 1 5e3d 1 1 1
   5e69 1 1 1 3862 1 1 1 22183 1 1 1 387c 1 1 1 5eb0 1 1 1 5eb3 1 1 1 5eb6 1 1 1 5eca 1 1
   1 2a392 1 1 1 5efe 1 1 1 22331 1 1 1 22331 1 1 1 8201 1 1 1 5f22 1 1 1 5f22 1 1 1 38c7
   1 1 1 232b8 1 1 1 261da 1 1 1 5f62 1 1 1 5f6b 1 1 1 38e3 1 1 1 5f9a 1 1 1 5fcd 1 1 1
   5fd7 1 1 1 5ff9 1 1 1 6081 1 1 1 393a 1 1 1 391c 1 1 1 6094 1 1 1 226d4 1 1 1 60c7 1 1
   1 6148 1 1 1 614c 1 1 1 614e 1 1 1 614c 1 1 1 617a 1 1 1 618e 1 1 1 61b2 1 1 1 61a4 1 1
   1 61af 1 1 1 61de 1 1 1 61f2 1 1 1 61f6 1 1 1 6210 1 1 1 621b 1 1 1 625d 1 1 1 62b1 1 1
   1 62d4 1 1 1 6350 1 1 1 22b0c 1 1 1 633d 1 1 1 62fc 1 1 1 6368 1 1 1 6383 1 1 1 63e4 1
   1 1 22bf1 1 1 1 6422 1 1 1 63c5 1 1 1 63a9 1 1 1 3a2e 1 1 1 6469 1 1 1 647e 1 1 1 649d
   1 1 1 6477 1 1 1 3a6c 1 1 1 654f 1 1 1 656c 1 1 1 2300a 1 1 1 65e3 1 1 1 66f8 1 1 1
   6649 1 1 1 3b19 1 1 1 6691 1 1 1 3b08 1 1 1 3ae4 1 1 1 5192 1 1 1 5195 1 1 1 6700 1 1 1
   669c 1 1 1 80ad 1 1 1 43d9 1 1 1 6717 1 1 1 671b 1 1 1 6721 1 1 1 675e 1 1 1 6753 1 1 1
   233c3 1 1 1 3b49 1 1 1 67fa 1 1 1 6785 1 1 1 6852 1 1 1 6885 1 1 1 2346d 1 1 1 688e 1 1
   1 681f 1 1 1 6914 1 1 1 3b9d 1 1 1 6942 1 1 1 69a3 1 1 1 69ea 1 1 1 6aa8 1 1 1 236a3 1
   1 1 6adb 1 1 1 3c18 1 1 1 6b21 1 1 1 238a7 1 1 1 6b54 1 1 1 3c4e 1 1 1 6b72 1 1 1 6b9f
   1 2 1 6bba 2 1 1 23a8d 1 1 1 21d0b 1 1 1 23afa 1 1 1 6c4e 1 1 1 23cbc 1 1 1 6cbf 1 1 1
   6ccd 1 1 1 6c67 1 1 1 6d16 1 1 1 6d3e 1 1 1 6d77 1 1 1 6d41 1 1 1 6d69 1 1 1 6d78 1 1 1
   6d85 1 1 1 23d1e 1 1 1 6d34 1 1 1 6e2f 1 1 1 6e6e 1 1 1 3d33 1 1 1 6ecb 1 1 1 6ec7 1 1
   1 23ed1 1 1 1 6df9 1 1 1 6f6e 1 1 1 23f5e 1 1 1 23f8e 1 1 1 6fc6 1 1 1 7039 1 1 1 701e
   1 1 1 701b 1 1 1 3d96 1 1 1 704a 1 1 1 707d 1 1 1 7077 1 1 1 70ad 1 1 1 20525 1 1 1
   7145 1 1 1 24263 1 1 1 719c 1 1 1 243ab 1 1 1 7228 1 1 1 7235 1 1 1 7250 1 1 1 24608 1
   1 1 7280 1 1 1 7295 1 1 1 24735 1 1 1 24814 1 1 1 737a 1 1 1 738b 1 1 1 3eac 1 1 1 73a5
   1 1 1 3eb8 1 1 1 3eb8 1 1 1 7447 1 1 1 745c 1 1 1 7471 1 1 1 7485 1 1 1 74ca 1 1 1 3f1b
   1 1 1 7524 1 1 1 24c36 1 1 1 753e 1 1 1 24c92 1 1 1 7570 1 1 1 2219f 1 1 1 7610 1 1 1
   24fa1 1 1 1 24fb8 1 1 1 25044 1 1 1 3ffc 1 1 1 4008 1 1 1 76f4 1 1 1 250f3 1 1 1 250f2
   1 1 1 25119 1 1 1 25133 1 2 1 771e 2 1 1 771f 1 1 1 774a 1 1 1 4039 1 1 1 778b 1 1 1
   4046 1 1 1 4096 1 1 1 2541d 1 1 1 784e 1 1 1 788c 1 1 1 78cc 1 1 1 40e3 1 1 1 25626 1 1
   1 7956 1 1 1 2569a 1 1 1 256c5 1 1 1 798f 1 1 1 79eb 1 1 1 412f 1 1 1 7a40 1 1 1 7a4a 1
   1 1 7a4f 1 1 1 2597c 1 1 1 25aa7 1 1 1 25aa7 1 1 1 7aee 1 1 1 4202 1 1 1 25bab 1 1 1
   7bc6 1 1 1 7bc9 1 1 1 4227 1 1 1 25c80 1 1 1 7cd2 1 1 1 42a0 1 1 1 7ce8 1 1 1 7ce3 1 1
   1 7d00 1 1 1 25f86 1 1 1 7d63 1 1 1 4301 1 1 1 7dc7 1 1 1 7e02 1 1 1 7e45 1 1 1 4334 1
   1 1 26228 1 1 1 26247 1 1 1 4359 1 1 1 262d9 1 1 1 7f7a 1 1 1 2633e 1 1 1 7f95 1 1 1
   7ffa 1 1 1 8005 1 1 1 264da 1 1 1 26523 1 1 1 8060 1 1 1 265a8 1 1 1 8070 1 1 1 2335f 1
   1 1 43d5 1 1 1 80b2 1 1 1 8103 1 1 1 440b 1 1 1 813e 1 1 1 5ab5 1 1 1 267a7 1 1 1 267b5
   1 1 1 23393 1 1 1 2339c 1 1 1 8201 1 1 1 8204 1 1 1 8f9e 1 1 1 446b 1 1 1 8291 1 1 1
   828b 1 1 1 829d 1 1 1 52b3 1 1 1 82b1 1 1 1 82b3 1 1 1 82bd 1 1 1 82e6 1 1 1 26b3c 1 1
   1 82e5 1 1 1 831d 1 1 1 8363 1 1 1 83ad 1 1 1 8323 1 1 1 83bd 1 1 1 83e7 1 1 1 8457 1 1
   1 8353 1 1 1 83ca 1 1 1 83cc 1 1 1 83dc 1 1 1 26c36 1 1 1 26d6b 1 1 1 26cd5 1 1 1 452b
   1 1 1 84f1 1 1 1 84f3 1 1 1 8516 1 1 1 273ca 1 1 1 8564 1 1 1 26f2c 1 1 1 455d 1 1 1
   4561 1 1 1 26fb1 1 1 1 270d2 1 1 1 456b 1 1 1 8650 1 1 1 865c 1 1 1 8667 1 1 1 8669 1 1
   1 86a9 1 1 1 8688 1 1 1 870e 1 1 1 86e2 1 1 1 8779 1 1 1 8728 1 1 1 876b 1 1 1 8786 1 1
   1 45d7 1 1 1 87e1 1 1 1 8801 1 1 1 45f9 1 1 1 8860 1 1 1 8863 1 1 1 27667 1 1 1 88d7 1
   1 1 88de 1 1 1 4635 1 1 1 88fa 1 1 1 34bb 1 1 1 278ae 1 1 1 27966 1 1 1 46be 1 1 1 46c7
   1 1 1 8aa0 1 1 1 8aed 1 1 1 8b8a 1 1 1 8c55 1 1 1 27ca8 1 1 1 8cab 1 1 1 8cc1 1 1 1
   8d1b 1 1 1 8d77 1 1 1 27f2f 1 1 1 20804 1 1 1 8dcb 1 1 1 8dbc 1 1 1 8df0 1 1 1 208de 1
   1 1 8ed4 1 1 1 8f38 1 1 1 285d2 1 1 1 285ed 1 1 1 9094 1 1 1 90f1 1 1 1 9111 1 1 1
   2872e 1 1 1 911b 1 1 1 9238 1 2 1 92d7 2 1 1 927c 1 1 1 93f9 1 1 1 9415 1 1 1 28bfa 1 1
   1 958b 1 1 1 4995 1 1 1 95b7 1 1 1 28d77 1 1 1 49e6 1 1 1 96c3 1 1 1 5db2 1 1 1 9723 1
   1 1 29145 1 1 1 2921a 1 1 1 4a6e 1 1 1 4a76 1 1 1 97e0 1 1 1 2940a 1 1 1 4ab2 1 1 1
   29496 1 1 1 980b 1 1 1 980b 1 1 1 9829 1 1 1 295b6 1 1 1 98e2 1 1 1 4b33 1 1 1 9929 1 1
   1 99a7 1 1 1 99c2 1 1 1 99fe 1 1 1 4bce 1 1 1 29b30 1 1 1 9b12 1 1 1 9c40 1 1 1 9cfd 1
   1 1 4cce 1 1 1 4ced 1 1 1 9d67 1 1 1 2a0ce 1 1 1 4cf8 1 1 1 2a105 1 1 1 2a20e 1 1 1
   2a291 1 1 1 9ebb 1 1 1 4d56 1 1 1 9ef9 1 1 1 9efe 1 1 1 9f05 1 1 1 9f0f 1 1 1 9f16 1 1
   1 9f3b 1 1 1 2a600"

/-- Characters that stand for several others or for none of their own kind: the distance
from the character before, the number of the others, and these. -/
def several : String :=
  "a8 2 20 308 7 2 20 304 5 2 20 301 4 2 20 327 4 3 31 2044 34 1 3 31 2044 32 1 3 33 2044
   34 72 2 69 307 2 2 69 6a 1 2 69 6a c 2 6c b7 1 2 6c b7 9 2 2bc 6e 7b 2 64 17e 1 2 64
   17e 1 2 64 17e 1 2 6c 6a 1 2 6c 6a 1 2 6c 6a 1 2 6e 6a 1 2 6e 6a 1 2 6e 6a 25 2 64 7a 1
   2 64 7a 1 2 64 7a e5 2 20 306 1 2 20 307 1 2 20 30a 1 2 20 328 1 2 20 303 1 2 20 30b 67
   2 308 301 36 2 20 3b9 a 2 20 301 1 3 20 308 301 202 2 565 582 ee 2 627 674 1 2 648 674
   1 2 6c7 674 1 2 64a 674 2e0 2 915 93c 1 2 916 93c 1 2 917 93c 1 2 91c 93c 1 2 921 93c 1
   2 922 93c 1 2 92b 93c 1 2 92f 93c 7d 2 9a1 9bc 1 2 9a2 9bc 2 2 9af 9bc 54 2 a32 a3c 3 2
   a38 a3c 23 2 a16 a3c 1 2 a17 a3c 1 2 a1c a3c 3 2 a2b a3c fe 2 b21 b3c 1 2 b22 b3c 2d6 2
   e4d e32 80 2 ecd eb2 29 2 eab e99 1 2 eab ea1 66 2 f42 fb7 a 2 f4c fb7 5 2 f51 fb7 5 2
   f56 fb7 5 2 f5b fb7 d 2 f40 fb5 a 2 f71 f72 2 2 f71 f74 1 2 fb2 f80 1 3 fb2 f71 f80 1 2
   fb3 f80 1 3 fb3 f71 f80 8 2 f71 f80 12 2 f92 fb7 a 2 f9c fb7 5 2 fa1 fb7 5 2 fa6 fb7 5
   2 fab fb7 d 2 f90 fb5 ee1 2 61 2be e6 2 1f00 3b9 1 2 1f01 3b9 1 2 1f02 3b9 1 2 1f03 3b9
   1 2 1f04 3b9 1 2 1f05 3b9 1 2 1f06 3b9 1 2 1f07 3b9 1 2 1f00 3b9 1 2 1f01 3b9 1 2 1f02
   3b9 1 2 1f03 3b9 1 2 1f04 3b9 1 2 1f05 3b9 1 2 1f06 3b9 1 2 1f07 3b9 1 2 1f20 3b9 1 2
   1f21 3b9 1 2 1f22 3b9 1 2 1f23 3b9 1 2 1f24 3b9 1 2 1f25 3b9 1 2 1f26 3b9 1 2 1f27 3b9
   1 2 1f20 3b9 1 2 1f21 3b9 1 2 1f22 3b9 1 2 1f23 3b9 1 2 1f24 3b9 1 2 1f25 3b9 1 2 1f26
   3b9 1 2 1f27 3b9 1 2 1f60 3b9 1 2 1f61 3b9 1 2 1f62 3b9 1 2 1f63 3b9 1 2 1f64 3b9 1 2
   1f65 3b9 1 2 1f66 3b9 1 2 1f67 3b9 1 2 1f60 3b9 1 2 1f61 3b9 1 2 1f62 3b9 1 2 1f63 3b9
   1 2 1f64 3b9 1 2 1f65 3b9 1 2 1f66 3b9 1 2 1f67 3b9 3 2 1f70 3b9 1 2 3b1 3b9 1 2 3ac
   3b9 3 2 1fb6 3b9 5 2 3b1 3b9 1 2 20 313 2 2 20 313 1 2 20 342 1 3 20 308 342 1 2 1f74
   3b9 1 2 3b7 3b9 1 2 3ae 3b9 3 2 1fc6 3b9 5 2 3b7 3b9 1 3 20 313 300 1 3 20 313 301 1 3
   20 313 342 e 3 20 314 300 1 3 20 314 301 1 3 20 314 342 e 3 20 308 300 1 3 20 308 301 4
   2 1f7c 3b9 1 2 3c9 3b9 1 2 3ce 3b9 3 2 1ff6 3b9 5 2 3c9 3b9 1 2 20 301 1 2 20 314 19 2
   20 333 1c 2 2032 2032 1 3 2032 2032 2032 2 2 2035 2035 1 3 2035 2035 2035 5 2 21 21 2 2
   20 305 9 2 3f 3f 1 2 3f 21 1 2 21 3f e 4 2032 2032 2032 2032 51 2 72 73 58 3 61 2f 63 1
   3 61 2f 73 2 2 b0 63 2 3 63 2f 6f 1 3 63 2f 75 3 2 b0 66 d 2 6e 6f a 2 73 6d 1 3 74 65
   6c 1 2 74 6d 19 3 66 61 78 15 3 31 2044 37 1 3 31 2044 39 1 4 31 2044 31 30 1 3 31 2044
   33 1 3 32 2044 33 1 3 31 2044 35 1 3 32 2044 35 1 3 33 2044 35 1 3 34 2044 35 1 3 31
   2044 36 1 3 35 2044 36 1 3 31 2044 38 1 3 33 2044 38 1 3 35 2044 38 1 3 37 2044 38 1 2
   31 2044 2 2 69 69 1 3 69 69 69 1 2 69 76 2 2 76 69 1 3 76 69 69 1 4 76 69 69 69 1 2 69
   78 2 2 78 69 1 3 78 69 69 6 2 69 69 1 3 69 69 69 1 2 69 76 2 2 76 69 1 3 76 69 69 1 4
   76 69 69 69 1 2 69 78 2 2 78 69 1 3 78 69 69 e 3 30 2044 33 a3 2 222b 222b 1 3 222b
   222b 222b 2 2 222e 222e 1 3 222e 222e 222e 239 2 31 30 1 2 31 31 1 2 31 32 1 2 31 33 1
   2 31 34 1 2 31 35 1 2 31 36 1 2 31 37 1 2 31 38 1 2 31 39 1 2 32 30 1 3 28 31 29 1 3 28
   32 29 1 3 28 33 29 1 3 28 34 29 1 3 28 35 29 1 3 28 36 29 1 3 28 37 29 1 3 28 38 29 1 3
   28 39 29 1 4 28 31 30 29 1 4 28 31 31 29 1 4 28 31 32 29 1 4 28 31 33 29 1 4 28 31 34
   29 1 4 28 31 35 29 1 4 28 31 36 29 1 4 28 31 37 29 1 4 28 31 38 29 1 4 28 31 39 29 1 4
   28 32 30 29 15 3 28 61 29 1 3 28 62 29 1 3 28 63 29 1 3 28 64 29 1 3 28 65 29 1 3 28 66
   29 1 3 28 67 29 1 3 28 68 29 1 3 28 69 29 1 3 28 6a 29 1 3 28 6b 29 1 3 28 6c 29 1 3 28
   6d 29 1 3 28 6e 29 1 3 28 6f 29 1 3 28 70 29 1 3 28 71 29 1 3 28 72 29 1 3 28 73 29 1 3
   28 74 29 1 3 28 75 29 1 3 28 76 29 1 3 28 77 29 1 3 28 78 29 1 3 28 79 29 1 3 28 7a 29
   557 4 222b 222b 222b 222b 68 3 3a 3a 3d 1 2 3d 3d 1 3 3d 3d 3d 66 2 2add 338 5bf 2 20
   3099 1 2 20 309a 3 2 3088 308a 60 2 30b3 30c8 101 3 28 1100 29 1 3 28 1102 29 1 3 28
   1103 29 1 3 28 1105 29 1 3 28 1106 29 1 3 28 1107 29 1 3 28 1109 29 1 3 28 110b 29 1 3
   28 110c 29 1 3 28 110e 29 1 3 28 110f 29 1 3 28 1110 29 1 3 28 1111 29 1 3 28 1112 29 1
   3 28 ac00 29 1 3 28 b098 29 1 3 28 b2e4 29 1 3 28 b77c 29 1 3 28 b9c8 29 1 3 28 bc14 29
   1 3 28 c0ac 29 1 3 28 c544 29 1 3 28 c790 29 1 3 28 cc28 29 1 3 28 ce74 29 1 3 28 d0c0
   29 1 3 28 d30c 29 1 3 28 d558 29 1 3 28 c8fc 29 1 4 28 c624 c804 29 1 4 28 c624 d6c4 29
   2 3 28 4e00 29 1 3 28 4e8c 29 1 3 28 4e09 29 1 3 28 56db 29 1 3 28 4e94 29 1 3 28 516d
   29 1 3 28 4e03 29 1 3 28 516b 29 1 3 28 4e5d 29 1 3 28 5341 29 1 3 28 6708 29 1 3 28
   706b 29 1 3 28 6c34 29 1 3 28 6728 29 1 3 28 91d1 29 1 3 28 571f 29 1 3 28 65e5 29 1 3
   28 682a 29 1 3 28 6709 29 1 3 28 793e 29 1 3 28 540d 29 1 3 28 7279 29 1 3 28 8ca1 29 1
   3 28 795d 29 1 3 28 52b4 29 1 3 28 4ee3 29 1 3 28 547c 29 1 3 28 5b66 29 1 3 28 76e3 29
   1 3 28 4f01 29 1 3 28 8cc7 29 1 3 28 5354 29 1 3 28 796d 29 1 3 28 4f11 29 1 3 28 81ea
   29 1 3 28 81f3 29 d 3 70 74 65 1 2 32 31 1 2 32 32 1 2 32 33 1 2 32 34 1 2 32 35 1 2 32
   36 1 2 32 37 1 2 32 38 1 2 32 39 1 2 33 30 1 2 33 31 1 2 33 32 1 2 33 33 1 2 33 34 1 2
   33 35 1d 2 cc38 ace0 1 2 c8fc c758 34 2 33 36 1 2 33 37 1 2 33 38 1 2 33 39 1 2 34 30 1
   2 34 31 1 2 34 32 1 2 34 33 1 2 34 34 1 2 34 35 1 2 34 36 1 2 34 37 1 2 34 38 1 2 34 39
   1 2 35 30 1 2 31 6708 1 2 32 6708 1 2 33 6708 1 2 34 6708 1 2 35 6708 1 2 36 6708 1 2
   37 6708 1 2 38 6708 1 2 39 6708 1 3 31 30 6708 1 3 31 31 6708 1 3 31 32 6708 1 2 68 67
   1 3 65 72 67 1 2 65 76 1 3 6c 74 64 30 2 4ee4 548c 1 4 30a2 30d1 30fc 30c8 1 4 30a2
   30eb 30d5 30a1 1 4 30a2 30f3 30da 30a2 1 3 30a2 30fc 30eb 1 4 30a4 30cb 30f3 30b0 1 3
   30a4 30f3 30c1 1 3 30a6 30a9 30f3 1 5 30a8 30b9 30af 30fc 30c9 1 4 30a8 30fc 30ab 30fc
   1 3 30aa 30f3 30b9 1 3 30aa 30fc 30e0 1 3 30ab 30a4 30ea 1 4 30ab 30e9 30c3 30c8 1 4
   30ab 30ed 30ea 30fc 1 3 30ac 30ed 30f3 1 3 30ac 30f3 30de 1 2 30ae 30ac 1 3 30ae 30cb
   30fc 1 4 30ad 30e5 30ea 30fc 1 4 30ae 30eb 30c0 30fc 1 2 30ad 30ed 1 5 30ad 30ed 30b0
   30e9 30e0 1 6 30ad 30ed 30e1 30fc 30c8 30eb 1 5 30ad 30ed 30ef 30c3 30c8 1 3 30b0 30e9
   30e0 1 5 30b0 30e9 30e0 30c8 30f3 1 5 30af 30eb 30bc 30a4 30ed 1 4 30af 30ed 30fc 30cd
   1 3 30b1 30fc 30b9 1 3 30b3 30eb 30ca 1 3 30b3 30fc 30dd 1 4 30b5 30a4 30af 30eb 1 5
   30b5 30f3 30c1 30fc 30e0 1 4 30b7 30ea 30f3 30b0 1 3 30bb 30f3 30c1 1 3 30bb 30f3 30c8
   1 3 30c0 30fc 30b9 1 2 30c7 30b7 1 2 30c9 30eb 1 2 30c8 30f3 1 2 30ca 30ce 1 3 30ce
   30c3 30c8 1 3 30cf 30a4 30c4 1 5 30d1 30fc 30bb 30f3 30c8 1 3 30d1 30fc 30c4 1 4 30d0
   30fc 30ec 30eb 1 5 30d4 30a2 30b9 30c8 30eb 1 3 30d4 30af 30eb 1 2 30d4 30b3 1 2 30d3
   30eb 1 5 30d5 30a1 30e9 30c3 30c9 1 4 30d5 30a3 30fc 30c8 1 5 30d6 30c3 30b7 30a7 30eb
   1 3 30d5 30e9 30f3 1 5 30d8 30af 30bf 30fc 30eb 1 2 30da 30bd 1 3 30da 30cb 30d2 1 3
   30d8 30eb 30c4 1 3 30da 30f3 30b9 1 3 30da 30fc 30b8 1 3 30d9 30fc 30bf 1 4 30dd 30a4
   30f3 30c8 1 3 30dc 30eb 30c8 1 2 30db 30f3 1 3 30dd 30f3 30c9 1 3 30db 30fc 30eb 1 3
   30db 30fc 30f3 1 4 30de 30a4 30af 30ed 1 3 30de 30a4 30eb 1 3 30de 30c3 30cf 1 3 30de
   30eb 30af 1 5 30de 30f3 30b7 30e7 30f3 1 4 30df 30af 30ed 30f3 1 2 30df 30ea 1 5 30df
   30ea 30d0 30fc 30eb 1 2 30e1 30ac 1 4 30e1 30ac 30c8 30f3 1 4 30e1 30fc 30c8 30eb 1 3
   30e4 30fc 30c9 1 3 30e4 30fc 30eb 1 3 30e6 30a2 30f3 1 4 30ea 30c3 30c8 30eb 1 2 30ea
   30e9 1 3 30eb 30d4 30fc 1 4 30eb 30fc 30d6 30eb 1 2 30ec 30e0 1 5 30ec 30f3 30c8 30b2
   30f3 1 3 30ef 30c3 30c8 1 2 30 70b9 1 2 31 70b9 1 2 32 70b9 1 2 33 70b9 1 2 34 70b9 1 2
   35 70b9 1 2 36 70b9 1 2 37 70b9 1 2 38 70b9 1 2 39 70b9 1 3 31 30 70b9 1 3 31 31 70b9 1
   3 31 32 70b9 1 3 31 33 70b9 1 3 31 34 70b9 1 3 31 35 70b9 1 3 31 36 70b9 1 3 31 37 70b9
   1 3 31 38 70b9 1 3 31 39 70b9 1 3 32 30 70b9 1 3 32 31 70b9 1 3 32 32 70b9 1 3 32 33
   70b9 1 3 32 34 70b9 1 3 68 70 61 1 2 64 61 1 2 61 75 1 3 62 61 72 1 2 6f 76 1 2 70 63 1
   2 64 6d 1 3 64 6d 32 1 3 64 6d 33 1 2 69 75 1 2 5e73 6210 1 2 662d 548c 1 2 5927 6b63 1
   2 660e 6cbb 1 4 682a 5f0f 4f1a 793e 1 2 70 61 1 2 6e 61 1 2 3bc 61 1 2 6d 61 1 2 6b 61
   1 2 6b 62 1 2 6d 62 1 2 67 62 1 3 63 61 6c 1 4 6b 63 61 6c 1 2 70 66 1 2 6e 66 1 2 3bc
   66 1 2 3bc 67 1 2 6d 67 1 2 6b 67 1 2 68 7a 1 3 6b 68 7a 1 3 6d 68 7a 1 3 67 68 7a 1 3
   74 68 7a 1 2 3bc 6c 1 2 6d 6c 1 2 64 6c 1 2 6b 6c 1 2 66 6d 1 2 6e 6d 1 2 3bc 6d 1 2 6d
   6d 1 2 63 6d 1 2 6b 6d 1 3 6d 6d 32 1 3 63 6d 32 1 2 6d 32 1 3 6b 6d 32 1 3 6d 6d 33 1
   3 63 6d 33 1 2 6d 33 1 3 6b 6d 33 1 3 6d 2215 73 1 4 6d 2215 73 32 1 2 70 61 1 3 6b 70
   61 1 3 6d 70 61 1 3 67 70 61 1 3 72 61 64 1 5 72 61 64 2215 73 1 6 72 61 64 2215 73 32
   1 2 70 73 1 2 6e 73 1 2 3bc 73 1 2 6d 73 1 2 70 76 1 2 6e 76 1 2 3bc 76 1 2 6d 76 1 2
   6b 76 1 2 6d 76 1 2 70 77 1 2 6e 77 1 2 3bc 77 1 2 6d 77 1 2 6b 77 1 2 6d 77 1 2 6b 3c9
   1 2 6d 3c9 2 2 62 71 1 2 63 63 1 2 63 64 1 4 63 2215 6b 67 2 2 64 62 1 2 67 79 1 2 68
   61 1 2 68 70 1 2 69 6e 1 2 6b 6b 1 2 6b 6d 1 2 6b 74 1 2 6c 6d 1 2 6c 6e 1 3 6c 6f 67 1
   2 6c 78 1 2 6d 62 1 3 6d 69 6c 1 3 6d 6f 6c 1 2 70 68 2 3 70 70 6d 1 2 70 72 1 2 73 72
   1 2 73 76 1 2 77 62 1 3 76 2215 6d 1 3 61 2215 6d 1 2 31 65e5 1 2 32 65e5 1 2 33 65e5 1
   2 34 65e5 1 2 35 65e5 1 2 36 65e5 1 2 37 65e5 1 2 38 65e5 1 2 39 65e5 1 3 31 30 65e5 1
   3 31 31 65e5 1 3 31 32 65e5 1 3 31 33 65e5 1 3 31 34 65e5 1 3 31 35 65e5 1 3 31 36 65e5
   1 3 31 37 65e5 1 3 31 38 65e5 1 3 31 39 65e5 1 3 32 30 65e5 1 3 32 31 65e5 1 3 32 32
   65e5 1 3 32 33 65e5 1 3 32 34 65e5 1 3 32 35 65e5 1 3 32 36 65e5 1 3 32 37 65e5 1 3 32
   38 65e5 1 3 32 39 65e5 1 3 33 30 65e5 1 3 33 31 65e5 1 3 67 61 6c c701 2 66 66 1 2 66
   69 1 2 66 6c 1 3 66 66 69 1 3 66 66 6c 1 2 73 74 1 2 73 74 d 2 574 576 1 2 574 565 1 2
   574 56b 1 2 57e 576 1 2 574 56d 6 2 5d9 5b4 2 2 5f2 5b7 b 2 5e9 5c1 1 2 5e9 5c2 1 3 5e9
   5bc 5c1 1 3 5e9 5bc 5c2 1 2 5d0 5b7 1 2 5d0 5b8 1 2 5d0 5bc 1 2 5d1 5bc 1 2 5d2 5bc 1 2
   5d3 5bc 1 2 5d4 5bc 1 2 5d5 5bc 1 2 5d6 5bc 2 2 5d8 5bc 1 2 5d9 5bc 1 2 5da 5bc 1 2 5db
   5bc 1 2 5dc 5bc 2 2 5de 5bc 2 2 5e0 5bc 1 2 5e1 5bc 2 2 5e3 5bc 1 2 5e4 5bc 2 2 5e6 5bc
   1 2 5e7 5bc 1 2 5e8 5bc 1 2 5e9 5bc 1 2 5ea 5bc 1 2 5d5 5b9 1 2 5d1 5bf 1 2 5db 5bf 1 2
   5e4 5bf 1 2 5d0 5dc 8e 2 6c7 674 d 2 626 627 1 2 626 627 1 2 626 6d5 1 2 626 6d5 1 2
   626 648 1 2 626 648 1 2 626 6c7 1 2 626 6c7 1 2 626 6c6 1 2 626 6c6 1 2 626 6c8 1 2 626
   6c8 1 2 626 6d0 1 2 626 6d0 1 2 626 6d0 1 2 626 649 1 2 626 649 1 2 626 649 5 2 626 62c
   1 2 626 62d 1 2 626 645 1 2 626 649 1 2 626 64a 1 2 628 62c 1 2 628 62d 1 2 628 62e 1 2
   628 645 1 2 628 649 1 2 628 64a 1 2 62a 62c 1 2 62a 62d 1 2 62a 62e 1 2 62a 645 1 2 62a
   649 1 2 62a 64a 1 2 62b 62c 1 2 62b 645 1 2 62b 649 1 2 62b 64a 1 2 62c 62d 1 2 62c 645
   1 2 62d 62c 1 2 62d 645 1 2 62e 62c 1 2 62e 62d 1 2 62e 645 1 2 633 62c 1 2 633 62d 1 2
   633 62e 1 2 633 645 1 2 635 62d 1 2 635 645 1 2 636 62c 1 2 636 62d 1 2 636 62e 1 2 636
   645 1 2 637 62d 1 2 637 645 1 2 638 645 1 2 639 62c 1 2 639 645 1 2 63a 62c 1 2 63a 645
   1 2 641 62c 1 2 641 62d 1 2 641 62e 1 2 641 645 1 2 641 649 1 2 641 64a 1 2 642 62d 1 2
   642 645 1 2 642 649 1 2 642 64a 1 2 643 627 1 2 643 62c 1 2 643 62d 1 2 643 62e 1 2 643
   644 1 2 643 645 1 2 643 649 1 2 643 64a 1 2 644 62c 1 2 644 62d 1 2 644 62e 1 2 644 645
   1 2 644 649 1 2 644 64a 1 2 645 62c 1 2 645 62d 1 2 645 62e 1 2 645 645 1 2 645 649 1 2
   645 64a 1 2 646 62c 1 2 646 62d 1 2 646 62e 1 2 646 645 1 2 646 649 1 2 646 64a 1 2 647
   62c 1 2 647 645 1 2 647 649 1 2 647 64a 1 2 64a 62c 1 2 64a 62d 1 2 64a 62e 1 2 64a 645
   1 2 64a 649 1 2 64a 64a 1 2 630 670 1 2 631 670 1 2 649 670 1 3 20 64c 651 1 3 20 64d
   651 1 3 20 64e 651 1 3 20 64f 651 1 3 20 650 651 1 3 20 651 670 1 2 626 631 1 2 626 632
   1 2 626 645 1 2 626 646 1 2 626 649 1 2 626 64a 1 2 628 631 1 2 628 632 1 2 628 645 1 2
   628 646 1 2 628 649 1 2 628 64a 1 2 62a 631 1 2 62a 632 1 2 62a 645 1 2 62a 646 1 2 62a
   649 1 2 62a 64a 1 2 62b 631 1 2 62b 632 1 2 62b 645 1 2 62b 646 1 2 62b 649 1 2 62b 64a
   1 2 641 649 1 2 641 64a 1 2 642 649 1 2 642 64a 1 2 643 627 1 2 643 644 1 2 643 645 1 2
   643 649 1 2 643 64a 1 2 644 645 1 2 644 649 1 2 644 64a 1 2 645 627 1 2 645 645 1 2 646
   631 1 2 646 632 1 2 646 645 1 2 646 646 1 2 646 649 1 2 646 64a 1 2 649 670 1 2 64a 631
   1 2 64a 632 1 2 64a 645 1 2 64a 646 1 2 64a 649 1 2 64a 64a 1 2 626 62c 1 2 626 62d 1 2
   626 62e 1 2 626 645 1 2 626 647 1 2 628 62c 1 2 628 62d 1 2 628 62e 1 2 628 645 1 2 628
   647 1 2 62a 62c 1 2 62a 62d 1 2 62a 62e 1 2 62a 645 1 2 62a 647 1 2 62b 645 1 2 62c 62d
   1 2 62c 645 1 2 62d 62c 1 2 62d 645 1 2 62e 62c 1 2 62e 645 1 2 633 62c 1 2 633 62d 1 2
   633 62e 1 2 633 645 1 2 635 62d 1 2 635 62e 1 2 635 645 1 2 636 62c 1 2 636 62d 1 2 636
   62e 1 2 636 645 1 2 637 62d 1 2 638 645 1 2 639 62c 1 2 639 645 1 2 63a 62c 1 2 63a 645
   1 2 641 62c 1 2 641 62d 1 2 641 62e 1 2 641 645 1 2 642 62d 1 2 642 645 1 2 643 62c 1 2
   643 62d 1 2 643 62e 1 2 643 644 1 2 643 645 1 2 644 62c 1 2 644 62d 1 2 644 62e 1 2 644
   645 1 2 644 647 1 2 645 62c 1 2 645 62d 1 2 645 62e 1 2 645 645 1 2 646 62c 1 2 646 62d
   1 2 646 62e 1 2 646 645 1 2 646 647 1 2 647 62c 1 2 647 645 1 2 647 670 1 2 64a 62c 1 2
   64a 62d 1 2 64a 62e 1 2 64a 645 1 2 64a 647 1 2 626 645 1 2 626 647 1 2 628 645 1 2 628
   647 1 2 62a 645 1 2 62a 647 1 2 62b 645 1 2 62b 647 1 2 633 645 1 2 633 647 1 2 634 645
   1 2 634 647 1 2 643 644 1 2 643 645 1 2 644 645 1 2 646 645 1 2 646 647 1 2 64a 645 1 2
   64a 647 1 3 640 64e 651 1 3 640 64f 651 1 3 640 650 651 1 2 637 649 1 2 637 64a 1 2 639
   649 1 2 639 64a 1 2 63a 649 1 2 63a 64a 1 2 633 649 1 2 633 64a 1 2 634 649 1 2 634 64a
   1 2 62d 649 1 2 62d 64a 1 2 62c 649 1 2 62c 64a 1 2 62e 649 1 2 62e 64a 1 2 635 649 1 2
   635 64a 1 2 636 649 1 2 636 64a 1 2 634 62c 1 2 634 62d 1 2 634 62e 1 2 634 645 1 2 634
   631 1 2 633 631 1 2 635 631 1 2 636 631 1 2 637 649 1 2 637 64a 1 2 639 649 1 2 639 64a
   1 2 63a 649 1 2 63a 64a 1 2 633 649 1 2 633 64a 1 2 634 649 1 2 634 64a 1 2 62d 649 1 2
   62d 64a 1 2 62c 649 1 2 62c 64a 1 2 62e 649 1 2 62e 64a 1 2 635 649 1 2 635 64a 1 2 636
   649 1 2 636 64a 1 2 634 62c 1 2 634 62d 1 2 634 62e 1 2 634 645 1 2 634 631 1 2 633 631
   1 2 635 631 1 2 636 631 1 2 634 62c 1 2 634 62d 1 2 634 62e 1 2 634 645 1 2 633 647 1 2
   634 647 1 2 637 645 1 2 633 62c 1 2 633 62d 1 2 633 62e 1 2 634 62c 1 2 634 62d 1 2 634
   62e 1 2 637 645 1 2 638 645 1 2 627 64b 1 2 627 64b 13 3 62a 62c 645 1 3 62a 62d 62c 1
   3 62a 62d 62c 1 3 62a 62d 645 1 3 62a 62e 645 1 3 62a 645 62c 1 3 62a 645 62d 1 3 62a
   645 62e 1 3 62c 645 62d 1 3 62c 645 62d 1 3 62d 645 64a 1 3 62d 645 649 1 3 633 62d 62c
   1 3 633 62c 62d 1 3 633 62c 649 1 3 633 645 62d 1 3 633 645 62d 1 3 633 645 62c 1 3 633
   645 645 1 3 633 645 645 1 3 635 62d 62d 1 3 635 62d 62d 1 3 635 645 645 1 3 634 62d 645
   1 3 634 62d 645 1 3 634 62c 64a 1 3 634 645 62e 1 3 634 645 62e 1 3 634 645 645 1 3 634
   645 645 1 3 636 62d 649 1 3 636 62e 645 1 3 636 62e 645 1 3 637 645 62d 1 3 637 645 62d
   1 3 637 645 645 1 3 637 645 64a 1 3 639 62c 645 1 3 639 645 645 1 3 639 645 645 1 3 639
   645 649 1 3 63a 645 645 1 3 63a 645 64a 1 3 63a 645 649 1 3 641 62e 645 1 3 641 62e 645
   1 3 642 645 62d 1 3 642 645 645 1 3 644 62d 645 1 3 644 62d 64a 1 3 644 62d 649 1 3 644
   62c 62c 1 3 644 62c 62c 1 3 644 62e 645 1 3 644 62e 645 1 3 644 645 62d 1 3 644 645 62d
   1 3 645 62d 62c 1 3 645 62d 645 1 3 645 62d 64a 1 3 645 62c 62d 1 3 645 62c 645 1 3 645
   62e 62c 1 3 645 62e 645 3 3 645 62c 62e 1 3 647 645 62c 1 3 647 645 645 1 3 646 62d 645
   1 3 646 62d 649 1 3 646 62c 645 1 3 646 62c 645 1 3 646 62c 649 1 3 646 645 64a 1 3 646
   645 649 1 3 64a 645 645 1 3 64a 645 645 1 3 628 62e 64a 1 3 62a 62c 64a 1 3 62a 62c 649
   1 3 62a 62e 64a 1 3 62a 62e 649 1 3 62a 645 64a 1 3 62a 645 649 1 3 62c 645 64a 1 3 62c
   62d 649 1 3 62c 645 649 1 3 633 62e 649 1 3 635 62d 64a 1 3 634 62d 64a 1 3 636 62d 64a
   1 3 644 62c 64a 1 3 644 645 64a 1 3 64a 62d 64a 1 3 64a 62c 64a 1 3 64a 645 64a 1 3 645
   645 64a 1 3 642 645 64a 1 3 646 62d 64a 1 3 642 645 62d 1 3 644 62d 645 1 3 639 645 64a
   1 3 643 645 64a 1 3 646 62c 62d 1 3 645 62e 64a 1 3 644 62c 645 1 3 643 645 645 1 3 644
   62c 645 1 3 646 62c 62d 1 3 62c 62d 64a 1 3 62d 62c 64a 1 3 645 62c 64a 1 3 641 645 64a
   1 3 628 62d 64a 1 3 643 645 645 1 3 639 62c 645 1 3 635 645 645 1 3 633 62e 64a 1 3 646
   62c 64a 29 3 635 644 6d2 1 3 642 644 6d2 1 4 627 644 644 647 1 4 627 643 628 631 1 4
   645 62d 645 62f 1 4 635 644 639 645 1 4 631 633 648 644 1 4 639 644 64a 647 1 4 648 633
   644 645 1 3 635 644 649 1 12 635 644 649 20 627 644 644 647 20 639 644 64a 647 20 648
   633 644 645 1 8 62c 644 20 62c 644 627 644 647 1 4 631 6cc 627 644 4d 2 20 305 1 2 20
   305 1 2 20 305 1 2 20 305 24 2 20 64b 1 2 640 64b 1 2 20 64c 2 2 20 64d 2 2 20 64e 1 2
   640 64e 1 2 20 64f 1 2 640 64f 1 2 20 650 1 2 640 650 1 2 20 651 1 2 640 651 1 2 20 652
   1 2 640 652 76 2 644 622 1 2 644 622 1 2 644 623 1 2 644 623 1 2 644 625 1 2 644 625 1
   2 644 627 1 2 644 627 e7 2 20 304 d17b 2 1d157 1d165 1 2 1d158 1d165 1 3 1d158 1d165
   1d16e 1 3 1d158 1d165 1d16f 1 3 1d158 1d165 1d170 1 3 1d158 1d165 1d171 1 3 1d158 1d165
   1d172 57 2 1d1b9 1d165 1 2 1d1ba 1d165 1 3 1d1b9 1d165 1d16e 1 3 1d1ba 1d165 1d16e 1 3
   1d1b9 1d165 1d16f 1 3 1d1ba 1d165 1d16f 1f41 2 30 2c 1 2 31 2c 1 2 32 2c 1 2 33 2c 1 2
   34 2c 1 2 35 2c 1 2 36 2c 1 2 37 2c 1 2 38 2c 1 2 39 2c 6 3 28 61 29 1 3 28 62 29 1 3
   28 63 29 1 3 28 64 29 1 3 28 65 29 1 3 28 66 29 1 3 28 67 29 1 3 28 68 29 1 3 28 69 29
   1 3 28 6a 29 1 3 28 6b 29 1 3 28 6c 29 1 3 28 6d 29 1 3 28 6e 29 1 3 28 6f 29 1 3 28 70
   29 1 3 28 71 29 1 3 28 72 29 1 3 28 73 29 1 3 28 74 29 1 3 28 75 29 1 3 28 76 29 1 3 28
   77 29 1 3 28 78 29 1 3 28 79 29 1 3 28 7a 29 1 3 3014 73 3015 3 2 63 64 1 2 77 7a 1c 2
   68 76 1 2 6d 76 1 2 73 64 1 2 73 73 1 3 70 70 76 1 2 77 63 1b 2 6d 63 1 2 6d 64 1 2 6d
   72 24 2 64 6a 70 2 307b 304b 1 2 30b3 30b3 3f 3 3014 672c 3015 1 3 3014 4e09 3015 1 3
   3014 4e8c 3015 1 3 3014 5b89 3015 1 3 3014 70b9 3015 1 3 3014 6253 3015 1 3 3014 76d7
   3015 1 3 3014 52dd 3015 1 3 3014 6557 3015"

end Registrar.Idna.Table
