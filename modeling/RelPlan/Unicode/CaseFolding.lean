import RelPlan.Unicode.Table

/-!
# Letter case

Characters that differ in nothing but letter case make up a family, such as `K`, `k` and the sign
for Kelvin. The family is given by its first member and the distances from there to the other ones.
A set is closed under letter case by adding first the heads of the families of its members and then
all members of these families.
-/

namespace RelPlan

/-- The first members of families that have a member at a given distance behind them. -/
def caseHeads : List (Nat × String) :=
  [(1, "100 102 104 106 108 10a 10c 10e 110 112 114 116 118 11a 11c 11e 120 122 124 126 128 12a 12c
    12e 132 134 136 139 13b 13d 13f 141 143 145 147 14a 14c 14e 150 152 154 156 158 15a 15c 15e 160
    162 164 166 168 16a 16c 16e 170 172 174 176 179 17b 17d 182 184 187 18b 191 198 1a0 1a2 1a4 1a7
    1ac 1af 1b3 1b5 1b8 1bc 1c4 1c7 1ca 1cd 1cf 1d1 1d3 1d5 1d7 1d9 1db 1de 1e0 1e2 1e4 1e6 1e8 1ea
    1ec 1ee 1f1 1f4 1f8 1fa 1fc 1fe 200 202 204 206 208 20a 20c 20e 210 212 214 216 218 21a 21c 21e
    222 224 226 228 22a 22c 22e 230 232 23b 241 246 248 24a 24c 24e 370 372 376 3d8 3da 3dc 3de 3e0
    3e2 3e4 3e6 3e8 3ea 3ec 3ee 3f7 3fa 460 462 464 466 468 46a 46c 46e 470 472 474 476 478 47a 47c
    47e 480 48a 48c 48e 490 492 494 496 498 49a 49c 49e 4a0 4a2 4a4 4a6 4a8 4aa 4ac 4ae 4b0 4b2 4b4
    4b6 4b8 4ba 4bc 4be 4c1 4c3 4c5 4c7 4c9 4cb 4cd 4d0 4d2 4d4 4d6 4d8 4da 4dc 4de 4e0 4e2 4e4 4e6
    4e8 4ea 4ec 4ee 4f0 4f2 4f4 4f6 4f8 4fa 4fc 4fe 500 502 504 506 508 50a 50c 50e 510 512 514 516
    518 51a 51c 51e 520 522 524 526 528 52a 52c 52e 1c89 1e00 1e02 1e04 1e06 1e08 1e0a 1e0c 1e0e
    1e10 1e12 1e14 1e16 1e18 1e1a 1e1c 1e1e 1e20 1e22 1e24 1e26 1e28 1e2a 1e2c 1e2e 1e30 1e32 1e34
    1e36 1e38 1e3a 1e3c 1e3e 1e40 1e42 1e44 1e46 1e48 1e4a 1e4c 1e4e 1e50 1e52 1e54 1e56 1e58 1e5a
    1e5c 1e5e 1e60 1e62 1e64 1e66 1e68 1e6a 1e6c 1e6e 1e70 1e72 1e74 1e76 1e78 1e7a 1e7c 1e7e 1e80
    1e82 1e84 1e86 1e88 1e8a 1e8c 1e8e 1e90 1e92 1e94 1ea0 1ea2 1ea4 1ea6 1ea8 1eaa 1eac 1eae 1eb0
    1eb2 1eb4 1eb6 1eb8 1eba 1ebc 1ebe 1ec0 1ec2 1ec4 1ec6 1ec8 1eca 1ecc 1ece 1ed0 1ed2 1ed4 1ed6
    1ed8 1eda 1edc 1ede 1ee0 1ee2 1ee4 1ee6 1ee8 1eea 1eec 1eee 1ef0 1ef2 1ef4 1ef6 1ef8 1efa 1efc
    1efe 2183 2c60 2c67 2c69 2c6b 2c72 2c75 2c80 2c82 2c84 2c86 2c88 2c8a 2c8c 2c8e 2c90 2c92 2c94
    2c96 2c98 2c9a 2c9c 2c9e 2ca0 2ca2 2ca4 2ca6 2ca8 2caa 2cac 2cae 2cb0 2cb2 2cb4 2cb6 2cb8 2cba
    2cbc 2cbe 2cc0 2cc2 2cc4 2cc6 2cc8 2cca 2ccc 2cce 2cd0 2cd2 2cd4 2cd6 2cd8 2cda 2cdc 2cde 2ce0
    2ce2 2ceb 2ced 2cf2 a640 a642 a644 a646 a648 a64c a64e a650 a652 a654 a656 a658 a65a a65c a65e
    a660 a662 a664 a666 a668 a66a a66c a680 a682 a684 a686 a688 a68a a68c a68e a690 a692 a694 a696
    a698 a69a a722 a724 a726 a728 a72a a72c a72e a732 a734 a736 a738 a73a a73c a73e a740 a742 a744
    a746 a748 a74a a74c a74e a750 a752 a754 a756 a758 a75a a75c a75e a760 a762 a764 a766 a768 a76a
    a76c a76e a779 a77b a77e a780 a782 a784 a786 a78b a790 a792 a796 a798 a79a a79c a79e a7a0 a7a2
    a7a4 a7a6 a7a8 a7b4 a7b6 a7b8 a7ba a7bc a7be a7c0 a7c2 a7c7 a7c9 a7cc a7d0 a7d6 a7d8 a7da
    a7f5"),
  (2, "1c4 1c7 1ca 1f1"), (7, "3f2 1fe5"),
  (8, "3cf 13f0-13f5 1f00-1f07 1f10-1f15 1f20-1f27 1f30-1f37 1f40-1f45 1f51 1f53 1f55 1f57 1f60-1f67
    1f80-1f87 1f90-1f97 1fa0-1fa7 1fb0-1fb1 1fd0-1fd1 1fe0-1fe1"),
  (9, "1fb3 1fc3 1ff3"), (15, "4c0"), (16, "2160-216f"), (26, "24b6-24cf"), (28, "2132"),
  (31, "3a3"),
  (32, "41-5a c0-d6 d8-de 391-398 39a-39b 39d-3a1 3a3-3ab 410-42f ff21-ff3a 10d50-10d65 118a0-118bf
    16e40-16e5f"),
  (34, "1e900-1e921"), (37, "388-38a"), (38, "386"),
  (39, "10570-1057a 1057c-1058a 1058c-10592 10594-10595"), (40, "10400-10427 104b0-104d3"),
  (47, "3a6"), (48, "531-556 2c00-2c2f a794"), (54, "3a0"), (56, "1bf"), (57, "398"), (59, "1e60"),
  (62, "392"), (63, "38e-38f"), (64, "38c 10c80-10cb2"), (69, "244"), (71, "245"),
  (74, "1f70-1f71"), (79, "18e"), (80, "3a1 400-40f"), (84, "345"), (86, "39a 1f72-1f75"),
  (92, "398"), (96, "395"), (97, "195"), (100, "1f76-1f77"), (112, "1f7a-1f7b"), (116, "345 37f"),
  (121, "ff"), (126, "1f7c-1f7d"), (128, "1f78-1f79"), (130, "19e 37b-37d"), (163, "19a"),
  (195, "180"), (202, "18f"), (203, "190"), (205, "189-18a 193"), (206, "186"), (207, "194"),
  (209, "197"), (210, "181"), (211, "196 19c"), (213, "19d"), (214, "19f"), (217, "1b1-1b2"),
  (218, "1a6 1a9 1ae"), (219, "1b7"), (300, "53"), (743, "b5"), (775, "b5"), (928, "a7b3"),
  (3008, "10d0-10fa 10fd-10ff"), (3814, "1d7d"), (6181, "462"), (6236, "42a"), (6242, "421-422"),
  (6243, "422"), (6244, "41e"), (6253, "414"), (6254, "412"), (7264, "10a0-10c5 10c7 10cd"),
  (7289, "345"), (7549, "3a9"), (7615, "df"), (8294, "c5"), (8415, "4b"), (10727, "27d"),
  (10743, "26b"), (10749, "271"), (10780, "251"), (10782, "252"), (10783, "250"), (10792, "23e"),
  (10795, "23a"), (10815, "23f-240"), (35266, "1c88"), (35267, "1c88"), (35332, "1d79"),
  (35384, "1d8e"), (38864, "13a0-13ef"), (42258, "29e"), (42261, "29d"), (42280, "265"),
  (42282, "287"), (42305, "26c"), (42307, "282"), (42308, "266 26a"), (42315, "261"),
  (42319, "25c"), (42343, "264"), (42561, "19b")]

/-- The first members of families, by the distance to some other member. -/
def headsByDistance : List (Nat × CodeSet) :=
  caseHeads.map fun (distance, text) => (distance, .ofText text)

namespace CodeSet

/-- The set with the heads of the families of its members. -/
def withHeads (s : CodeSet) : CodeSet :=
  headsByDistance.foldl
    (fun t (distance, heads) => t ∪ (s ∩ heads.moveUp distance).moveDown distance) s

/-- The set with the members of the families whose heads are in it. -/
def withMembers (s : CodeSet) : CodeSet :=
  headsByDistance.foldl (fun t (distance, heads) => t ∪ (s ∩ heads).moveUp distance) s

/-- The set with everything that differs in nothing but letter case from something in it. -/
def caseFolded (s : CodeSet) : CodeSet := s.withHeads.withMembers

end CodeSet

/-- The code points that have others from which they differ in nothing but letter case. -/
def casePartners : CodeSet :=
  .unionOf (headsByDistance.map fun (distance, heads) => heads ∪ heads.moveUp distance)

end RelPlan
