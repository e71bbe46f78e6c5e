import Newswire.Character.Ranges

/-!
# Case

Lower and upper case of single characters by Unicode 17, where one character may become up to three,
and case folding by Unicode 16, which sends all characters that differ in case only to the same one.
The tables list runs: the first code point, how many there are, the step from one to the next, and
the shift to the image.
-/

namespace Newswire.Character

/-- Characters whose images all lie at the same distance. -/
structure Run where
  first : Nat
  count : Nat
  step : Nat
  shift : Int

def Run.image? (r : Run) (n : Nat) : Option Nat :=
  if r.first ≤ n && (n - r.first) % r.step == 0 && (n - r.first) / r.step < r.count then
    some (n + r.shift).toNat
  else none

/-- All characters of the run with their images. -/
def Run.pairs (r : Run) : List (Nat × Nat) :=
  (List.range r.count).map fun k =>
    let n := r.first + k * r.step
    (n, (n + r.shift).toNat)

/-- A hexadecimal number that may have a sign. -/
def signedNumber : List Char → Int
  | '-' :: digits => -CharSet.hexNumber digits
  | digits => CharSet.hexNumber digits

def Run.ofNumbers : List Int → List Run
  | first :: count :: step :: shift :: rest =>
    ⟨first.toNat, count.toNat, step.toNat, shift⟩ :: Run.ofNumbers rest
  | _ => []

def Run.ofTable (table : String) : List Run :=
  Run.ofNumbers ((Text.words table.toList).map signedNumber)

def lowerRuns : List Run :=
  Run.ofTable
    "41 1a 1 20 c0 17 1 20 d8 7 1 20 100 18 2 1 132 3 2 1 139 8 2 1 14a 17 2 1 178 1 1 -79 179 3
    2 1 181 1 1 d2 182 2 2 1 186 1 1 ce 187 1 1 1 189 2 1 cd 18b 1 1 1 18e 1 1 4f 18f 1 1 ca 190
    1 1 cb 191 1 1 1 193 1 1 cd 194 1 1 cf 196 1 1 d3 197 1 1 d1 198 1 1 1 19c 1 1 d3 19d 1 1 d5
    19f 1 1 d6 1a0 3 2 1 1a6 1 1 da 1a7 1 1 1 1a9 1 1 da 1ac 1 1 1 1ae 1 1 da 1af 1 1 1 1b1 2 1
    d9 1b3 2 2 1 1b7 1 1 db 1b8 1 1 1 1bc 1 1 1 1c4 1 1 2 1c5 1 1 1 1c7 1 1 2 1c8 1 1 1 1ca 1 1
    2 1cb 9 2 1 1de 9 2 1 1f1 1 1 2 1f2 2 2 1 1f6 1 1 -61 1f7 1 1 -38 1f8 14 2 1 220 1 1 -82 222
    9 2 1 23a 1 1 2a2b 23b 1 1 1 23d 1 1 -a3 23e 1 1 2a28 241 1 1 1 243 1 1 -c3 244 1 1 45 245 1
    1 47 246 5 2 1 370 2 2 1 376 1 1 1 37f 1 1 74 386 1 1 26 388 3 1 25 38c 1 1 40 38e 2 1 3f
    391 11 1 20 3a3 9 1 20 3cf 1 1 8 3d8 c 2 1 3f4 1 1 -3c 3f7 1 1 1 3f9 1 1 -7 3fa 1 1 1 3fd 3
    1 -82 400 10 1 50 410 20 1 20 460 11 2 1 48a 1b 2 1 4c0 1 1 f 4c1 7 2 1 4d0 30 2 1 531 26 1
    30 10a0 26 1 1c60 10c7 1 1 1c60 10cd 1 1 1c60 13a0 50 1 97d0 13f0 6 1 8 1c89 1 1 1 1c90 2b 1
    -bc0 1cbd 3 1 -bc0 1e00 4b 2 1 1e9e 1 1 -1dbf 1ea0 30 2 1 1f08 8 1 -8 1f18 6 1 -8 1f28 8 1
    -8 1f38 8 1 -8 1f48 6 1 -8 1f59 4 2 -8 1f68 8 1 -8 1f88 8 1 -8 1f98 8 1 -8 1fa8 8 1 -8 1fb8
    2 1 -8 1fba 2 1 -4a 1fbc 1 1 -9 1fc8 4 1 -56 1fcc 1 1 -9 1fd8 2 1 -8 1fda 2 1 -64 1fe8 2 1
    -8 1fea 2 1 -70 1fec 1 1 -7 1ff8 2 1 -80 1ffa 2 1 -7e 1ffc 1 1 -9 2126 1 1 -1d5d 212a 1 1
    -20bf 212b 1 1 -2046 2132 1 1 1c 2160 10 1 10 2183 1 1 1 24b6 1a 1 1a 2c00 30 1 30 2c60 1 1
    1 2c62 1 1 -29f7 2c63 1 1 -ee6 2c64 1 1 -29e7 2c67 3 2 1 2c6d 1 1 -2a1c 2c6e 1 1 -29fd 2c6f
    1 1 -2a1f 2c70 1 1 -2a1e 2c72 1 1 1 2c75 1 1 1 2c7e 2 1 -2a3f 2c80 32 2 1 2ceb 2 2 1 2cf2 1
    1 1 a640 17 2 1 a680 e 2 1 a722 7 2 1 a732 1f 2 1 a779 2 2 1 a77d 1 1 -8a04 a77e 5 2 1 a78b
    1 1 1 a78d 1 1 -a528 a790 2 2 1 a796 a 2 1 a7aa 1 1 -a544 a7ab 1 1 -a54f a7ac 1 1 -a54b a7ad
    1 1 -a541 a7ae 1 1 -a544 a7b0 1 1 -a512 a7b1 1 1 -a52a a7b2 1 1 -a515 a7b3 1 1 3a0 a7b4 8 2
    1 a7c4 1 1 -30 a7c5 1 1 -a543 a7c6 1 1 -8a38 a7c7 2 2 1 a7cb 1 1 -a567 a7cc 8 2 1 a7dc 1 1
    -a641 a7f5 1 1 1 ff21 1a 1 20 10400 28 1 28 104b0 24 1 28 10570 b 1 27 1057c f 1 27 1058c 7
    1 27 10594 2 1 27 10c80 33 1 40 10d50 16 1 20 118a0 20 1 20 16e40 20 1 20 16ea0 19 1 1b
    1e900 22 1 22"

def upperRuns : List Run :=
  Run.ofTable
    "61 1a 1 -20 b5 1 1 2e7 e0 17 1 -20 f8 7 1 -20 ff 1 1 79 101 18 2 -1 131 1 1 -e8 133 3 2 -1
    13a 8 2 -1 14b 17 2 -1 17a 3 2 -1 17f 1 1 -12c 180 1 1 c3 183 2 2 -1 188 1 1 -1 18c 1 1 -1
    192 1 1 -1 195 1 1 61 199 1 1 -1 19a 1 1 a3 19b 1 1 a641 19e 1 1 82 1a1 3 2 -1 1a8 1 1 -1
    1ad 1 1 -1 1b0 1 1 -1 1b4 2 2 -1 1b9 1 1 -1 1bd 1 1 -1 1bf 1 1 38 1c5 1 1 -1 1c6 1 1 -2 1c8
    1 1 -1 1c9 1 1 -2 1cb 1 1 -1 1cc 1 1 -2 1ce 8 2 -1 1dd 1 1 -4f 1df 9 2 -1 1f2 1 1 -1 1f3 1 1
    -2 1f5 1 1 -1 1f9 14 2 -1 223 9 2 -1 23c 1 1 -1 23f 2 1 2a3f 242 1 1 -1 247 5 2 -1 250 1 1
    2a1f 251 1 1 2a1c 252 1 1 2a1e 253 1 1 -d2 254 1 1 -ce 256 2 1 -cd 259 1 1 -ca 25b 1 1 -cb
    25c 1 1 a54f 260 1 1 -cd 261 1 1 a54b 263 1 1 -cf 264 1 1 a567 265 1 1 a528 266 1 1 a544 268
    1 1 -d1 269 1 1 -d3 26a 1 1 a544 26b 1 1 29f7 26c 1 1 a541 26f 1 1 -d3 271 1 1 29fd 272 1 1
    -d5 275 1 1 -d6 27d 1 1 29e7 280 1 1 -da 282 1 1 a543 283 1 1 -da 287 1 1 a52a 288 1 1 -da
    289 1 1 -45 28a 2 1 -d9 28c 1 1 -47 292 1 1 -db 29d 1 1 a515 29e 1 1 a512 345 1 1 54 371 2 2
    -1 377 1 1 -1 37b 3 1 82 3ac 1 1 -26 3ad 3 1 -25 3b1 11 1 -20 3c2 1 1 -1f 3c3 9 1 -20 3cc 1
    1 -40 3cd 2 1 -3f 3d0 1 1 -3e 3d1 1 1 -39 3d5 1 1 -2f 3d6 1 1 -36 3d7 1 1 -8 3d9 c 2 -1 3f0
    1 1 -56 3f1 1 1 -50 3f2 1 1 7 3f3 1 1 -74 3f5 1 1 -60 3f8 1 1 -1 3fb 1 1 -1 430 20 1 -20 450
    10 1 -50 461 11 2 -1 48b 1b 2 -1 4c2 7 2 -1 4cf 1 1 -f 4d1 30 2 -1 561 26 1 -30 10d0 2b 1
    bc0 10fd 3 1 bc0 13f8 6 1 -8 1c80 1 1 -186e 1c81 1 1 -186d 1c82 1 1 -1864 1c83 2 1 -1862
    1c85 1 1 -1863 1c86 1 1 -185c 1c87 1 1 -1825 1c88 1 1 89c2 1c8a 1 1 -1 1d79 1 1 8a04 1d7d 1
    1 ee6 1d8e 1 1 8a38 1e01 4b 2 -1 1e9b 1 1 -3b 1ea1 30 2 -1 1f00 8 1 8 1f10 6 1 8 1f20 8 1 8
    1f30 8 1 8 1f40 6 1 8 1f51 4 2 8 1f60 8 1 8 1f70 2 1 4a 1f72 4 1 56 1f76 2 1 64 1f78 2 1 80
    1f7a 2 1 70 1f7c 2 1 7e 1fb0 2 1 8 1fbe 1 1 -1c25 1fd0 2 1 8 1fe0 2 1 8 1fe5 1 1 7 214e 1 1
    -1c 2170 10 1 -10 2184 1 1 -1 24d0 1a 1 -1a 2c30 30 1 -30 2c61 1 1 -1 2c65 1 1 -2a2b 2c66 1
    1 -2a28 2c68 3 2 -1 2c73 1 1 -1 2c76 1 1 -1 2c81 32 2 -1 2cec 2 2 -1 2cf3 1 1 -1 2d00 26 1
    -1c60 2d27 1 1 -1c60 2d2d 1 1 -1c60 a641 17 2 -1 a681 e 2 -1 a723 7 2 -1 a733 1f 2 -1 a77a 2
    2 -1 a77f 5 2 -1 a78c 1 1 -1 a791 2 2 -1 a794 1 1 30 a797 a 2 -1 a7b5 8 2 -1 a7c8 2 2 -1
    a7cd 8 2 -1 a7f6 1 1 -1 ab53 1 1 -3a0 ab70 50 1 -97d0 ff41 1a 1 -20 10428 28 1 -28 104d8 24
    1 -28 10597 b 1 -27 105a3 f 1 -27 105b3 7 1 -27 105bb 2 1 -27 10cc0 33 1 -40 10d70 16 1 -20
    118c0 20 1 -20 16e60 20 1 -20 16ebb 19 1 -1b 1e922 22 1 -22"

def foldRuns : List Run :=
  Run.ofTable
    "61 1a 1 -20 e0 17 1 -20 f8 7 1 -20 101 18 2 -1 133 3 2 -1 13a 8 2 -1 14b 17 2 -1 178 1 1 -79
    17a 3 2 -1 17f 1 1 -12c 183 2 2 -1 188 1 1 -1 18c 1 1 -1 192 1 1 -1 199 1 1 -1 1a1 3 2 -1
    1a8 1 1 -1 1ad 1 1 -1 1b0 1 1 -1 1b4 2 2 -1 1b9 1 1 -1 1bd 1 1 -1 1c5 1 1 -1 1c6 1 1 -2 1c8
    1 1 -1 1c9 1 1 -2 1cb 1 1 -1 1cc 1 1 -2 1ce 8 2 -1 1dd 1 1 -4f 1df 9 2 -1 1f2 1 1 -1 1f3 1 1
    -2 1f5 1 1 -1 1f6 1 1 -61 1f7 1 1 -38 1f9 14 2 -1 220 1 1 -82 223 9 2 -1 23c 1 1 -1 23d 1 1
    -a3 242 1 1 -1 243 1 1 -c3 247 5 2 -1 253 1 1 -d2 254 1 1 -ce 256 2 1 -cd 259 1 1 -ca 25b 1
    1 -cb 260 1 1 -cd 263 1 1 -cf 268 1 1 -d1 269 1 1 -d3 26f 1 1 -d3 272 1 1 -d5 275 1 1 -d6
    280 1 1 -da 283 1 1 -da 288 1 1 -da 289 1 1 -45 28a 2 1 -d9 28c 1 1 -47 292 1 1 -db 371 2 2
    -1 377 1 1 -1 399 1 1 -54 39c 1 1 -2e7 3ac 1 1 -26 3ad 3 1 -25 3b1 8 1 -20 3b9 1 1 -74 3ba 2
    1 -20 3bc 1 1 -307 3bd 5 1 -20 3c2 1 1 -1f 3c3 9 1 -20 3cc 1 1 -40 3cd 2 1 -3f 3d0 1 1 -3e
    3d1 1 1 -39 3d5 1 1 -2f 3d6 1 1 -36 3d7 1 1 -8 3d9 c 2 -1 3f0 1 1 -56 3f1 1 1 -50 3f3 1 1
    -74 3f4 1 1 -5c 3f5 1 1 -60 3f8 1 1 -1 3f9 1 1 -7 3fb 1 1 -1 3fd 3 1 -82 430 20 1 -20 450 10
    1 -50 461 11 2 -1 48b 1b 2 -1 4c2 7 2 -1 4cf 1 1 -f 4d1 30 2 -1 561 26 1 -30 13f8 6 1 -8
    1c80 1 1 -186e 1c81 1 1 -186d 1c82 1 1 -1864 1c83 2 1 -1862 1c85 1 1 -1863 1c86 1 1 -185c
    1c87 1 1 -1825 1c8a 1 1 -1 1c90 2b 1 -bc0 1cbd 3 1 -bc0 1e01 4b 2 -1 1e9b 1 1 -3b 1e9e 1 1
    -1dbf 1ea1 30 2 -1 1f08 8 1 -8 1f18 6 1 -8 1f28 8 1 -8 1f38 8 1 -8 1f48 6 1 -8 1f59 4 2 -8
    1f68 8 1 -8 1f88 8 1 -8 1f98 8 1 -8 1fa8 8 1 -8 1fb8 2 1 -8 1fba 2 1 -4a 1fbc 1 1 -9 1fbe 1
    1 -1c79 1fc8 4 1 -56 1fcc 1 1 -9 1fd3 1 1 -1c43 1fd8 2 1 -8 1fda 2 1 -64 1fe3 1 1 -1c33 1fe8
    2 1 -8 1fea 2 1 -70 1fec 1 1 -7 1ff8 2 1 -80 1ffa 2 1 -7e 1ffc 1 1 -9 2126 1 1 -1d7d 212a 1
    1 -20df 212b 1 1 -2066 214e 1 1 -1c 2170 10 1 -10 2184 1 1 -1 24d0 1a 1 -1a 2c30 30 1 -30
    2c61 1 1 -1 2c62 1 1 -29f7 2c63 1 1 -ee6 2c64 1 1 -29e7 2c65 1 1 -2a2b 2c66 1 1 -2a28 2c68 3
    2 -1 2c6d 1 1 -2a1c 2c6e 1 1 -29fd 2c6f 1 1 -2a1f 2c70 1 1 -2a1e 2c73 1 1 -1 2c76 1 1 -1
    2c7e 2 1 -2a3f 2c81 32 2 -1 2cec 2 2 -1 2cf3 1 1 -1 2d00 26 1 -1c60 2d27 1 1 -1c60 2d2d 1 1
    -1c60 a641 5 2 -1 a64a 1 1 -89c2 a64b 1 1 -89c3 a64d 11 2 -1 a681 e 2 -1 a723 7 2 -1 a733 1f
    2 -1 a77a 2 2 -1 a77d 1 1 -8a04 a77f 5 2 -1 a78c 1 1 -1 a78d 1 1 -a528 a791 2 2 -1 a797 a 2
    -1 a7aa 1 1 -a544 a7ab 1 1 -a54f a7ac 1 1 -a54b a7ad 1 1 -a541 a7ae 1 1 -a544 a7b0 1 1 -a512
    a7b1 1 1 -a52a a7b2 1 1 -a515 a7b5 8 2 -1 a7c4 1 1 -30 a7c5 1 1 -a543 a7c6 1 1 -8a38 a7c8 2
    2 -1 a7cb 1 1 -a567 a7cd 1 1 -1 a7d1 1 1 -1 a7d7 3 2 -1 a7dc 1 1 -a641 a7f6 1 1 -1 ab53 1 1
    -3a0 ab70 50 1 -97d0 fb05 1 1 1 ff41 1a 1 -20 10428 28 1 -28 104d8 24 1 -28 10597 b 1 -27
    105a3 f 1 -27 105b3 7 1 -27 105bb 2 1 -27 10cc0 33 1 -40 10d70 16 1 -20 118c0 20 1 -20 16e60
    20 1 -20 1e922 22 1 -22"

/-- The characters that have more than one character as their upper case. -/
def upperExpansions : List (Nat × List Nat) :=
  [(0xDF, [0x53, 0x53]), (0x149, [0x2BC, 0x4E]), (0x1F0, [0x4A, 0x30C]),
   (0x390, [0x399, 0x308, 0x301]), (0x3B0, [0x3A5, 0x308, 0x301]), (0x587, [0x535, 0x552]),
   (0x1E96, [0x48, 0x331]), (0x1E97, [0x54, 0x308]), (0x1E98, [0x57, 0x30A]),
   (0x1E99, [0x59, 0x30A]), (0x1E9A, [0x41, 0x2BE]), (0x1F50, [0x3A5, 0x313]),
   (0x1F52, [0x3A5, 0x313, 0x300]), (0x1F54, [0x3A5, 0x313, 0x301]),
   (0x1F56, [0x3A5, 0x313, 0x342]), (0x1F80, [0x1F08, 0x399]), (0x1F81, [0x1F09, 0x399]),
   (0x1F82, [0x1F0A, 0x399]), (0x1F83, [0x1F0B, 0x399]), (0x1F84, [0x1F0C, 0x399]),
   (0x1F85, [0x1F0D, 0x399]), (0x1F86, [0x1F0E, 0x399]), (0x1F87, [0x1F0F, 0x399]),
   (0x1F88, [0x1F08, 0x399]), (0x1F89, [0x1F09, 0x399]), (0x1F8A, [0x1F0A, 0x399]),
   (0x1F8B, [0x1F0B, 0x399]), (0x1F8C, [0x1F0C, 0x399]), (0x1F8D, [0x1F0D, 0x399]),
   (0x1F8E, [0x1F0E, 0x399]), (0x1F8F, [0x1F0F, 0x399]), (0x1F90, [0x1F28, 0x399]),
   (0x1F91, [0x1F29, 0x399]), (0x1F92, [0x1F2A, 0x399]), (0x1F93, [0x1F2B, 0x399]),
   (0x1F94, [0x1F2C, 0x399]), (0x1F95, [0x1F2D, 0x399]), (0x1F96, [0x1F2E, 0x399]),
   (0x1F97, [0x1F2F, 0x399]), (0x1F98, [0x1F28, 0x399]), (0x1F99, [0x1F29, 0x399]),
   (0x1F9A, [0x1F2A, 0x399]), (0x1F9B, [0x1F2B, 0x399]), (0x1F9C, [0x1F2C, 0x399]),
   (0x1F9D, [0x1F2D, 0x399]), (0x1F9E, [0x1F2E, 0x399]), (0x1F9F, [0x1F2F, 0x399]),
   (0x1FA0, [0x1F68, 0x399]), (0x1FA1, [0x1F69, 0x399]), (0x1FA2, [0x1F6A, 0x399]),
   (0x1FA3, [0x1F6B, 0x399]), (0x1FA4, [0x1F6C, 0x399]), (0x1FA5, [0x1F6D, 0x399]),
   (0x1FA6, [0x1F6E, 0x399]), (0x1FA7, [0x1F6F, 0x399]), (0x1FA8, [0x1F68, 0x399]),
   (0x1FA9, [0x1F69, 0x399]), (0x1FAA, [0x1F6A, 0x399]), (0x1FAB, [0x1F6B, 0x399]),
   (0x1FAC, [0x1F6C, 0x399]), (0x1FAD, [0x1F6D, 0x399]), (0x1FAE, [0x1F6E, 0x399]),
   (0x1FAF, [0x1F6F, 0x399]), (0x1FB2, [0x1FBA, 0x399]), (0x1FB3, [0x391, 0x399]),
   (0x1FB4, [0x386, 0x399]), (0x1FB6, [0x391, 0x342]), (0x1FB7, [0x391, 0x342, 0x399]),
   (0x1FBC, [0x391, 0x399]), (0x1FC2, [0x1FCA, 0x399]), (0x1FC3, [0x397, 0x399]),
   (0x1FC4, [0x389, 0x399]), (0x1FC6, [0x397, 0x342]), (0x1FC7, [0x397, 0x342, 0x399]),
   (0x1FCC, [0x397, 0x399]), (0x1FD2, [0x399, 0x308, 0x300]), (0x1FD3, [0x399, 0x308, 0x301]),
   (0x1FD6, [0x399, 0x342]), (0x1FD7, [0x399, 0x308, 0x342]), (0x1FE2, [0x3A5, 0x308, 0x300]),
   (0x1FE3, [0x3A5, 0x308, 0x301]), (0x1FE4, [0x3A1, 0x313]), (0x1FE6, [0x3A5, 0x342]),
   (0x1FE7, [0x3A5, 0x308, 0x342]), (0x1FF2, [0x1FFA, 0x399]), (0x1FF3, [0x3A9, 0x399]),
   (0x1FF4, [0x38F, 0x399]), (0x1FF6, [0x3A9, 0x342]), (0x1FF7, [0x3A9, 0x342, 0x399]),
   (0x1FFC, [0x3A9, 0x399]), (0xFB00, [0x46, 0x46]), (0xFB01, [0x46, 0x49]),
   (0xFB02, [0x46, 0x4C]), (0xFB03, [0x46, 0x46, 0x49]), (0xFB04, [0x46, 0x46, 0x4C]),
   (0xFB05, [0x53, 0x54]), (0xFB06, [0x53, 0x54]), (0xFB13, [0x544, 0x546]),
   (0xFB14, [0x544, 0x535]), (0xFB15, [0x544, 0x53B]), (0xFB16, [0x54E, 0x546]),
   (0xFB17, [0x544, 0x53D])]

def image (runs : List Run) (n : Nat) : Nat := (runs.findSome? fun r => r.image? n).getD n

/-- The lower case of a character apart from its place in a word. -/
def lower (c : Char) : List Char :=
  if c.toNat < 0x80 then [c.toLower]
  else if c.toNat = 0x130 then ['i', '\u0307']
  else [Char.ofNat (image lowerRuns c.toNat)]

def upper (c : Char) : List Char :=
  if c.toNat < 0x80 then [c.toUpper]
  else
    match upperExpansions.find? fun e => e.1 == c.toNat with
    | some (_, ns) => ns.map Char.ofNat
    | none => [Char.ofNat (image upperRuns c.toNat)]

/-- Every character that is not its own folding, with its folding. -/
def foldPairs : List (Nat × Nat) := foldRuns.flatMap Run.pairs

/-- Adds to a set all characters that differ from one of its own in case only. -/
def foldClosure (s : CharSet) : CharSet :=
  let folded := s.union (.ofRanges (foldPairs.filterMap fun p =>
    if s.memNat p.1 then some (p.2, p.2) else none))
  folded.union (.ofRanges (foldPairs.filterMap fun p =>
    if folded.memNat p.2 then some (p.1, p.1) else none))

end Newswire.Character
