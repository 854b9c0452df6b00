import TestReach.Text.Range

namespace TestReach.Text.Script

def latin : List (Nat × Nat × Nat) :=
  [(0x41, 0x5a, 1), (0x61, 0x7a, 1), (0xc0, 0xd6, 1), (0xd8, 0xf6, 1), (0xf8, 0x2af, 1),
   (0x1d00, 0x1d25, 1), (0x1d6b, 0x1d77, 1), (0x1d79, 0x1d9a, 1), (0x1e00, 0x1eff, 1),
   (0x2184, 0x2184, 1), (0x2c60, 0x2c7b, 1), (0x2c7e, 0x2c7f, 1), (0xa722, 0xa76f, 1),
   (0xa771, 0xa787, 1), (0xa78b, 0xa7ca, 1), (0xa7d0, 0xa7d1, 1), (0xa7d3, 0xa7d5, 2),
   (0xa7d6, 0xa7d9, 1), (0xa7f5, 0xa7f6, 1), (0xa7fa, 0xa7fa, 1), (0xab30, 0xab5a, 1),
   (0xab60, 0xab64, 1), (0xab66, 0xab68, 1), (0xfb00, 0xfb06, 1), (0x1df00, 0x1df1e, 1)]

def greek : List (Nat × Nat × Nat) :=
  [(0x370, 0x374, 1), (0x376, 0x377, 1), (0x37a, 0x37d, 1), (0x37f, 0x37f, 1), (0x386, 0x388, 2),
   (0x389, 0x38a, 1), (0x38c, 0x38e, 2), (0x38f, 0x3a1, 1), (0x3a3, 0x3e1, 1), (0x3f0, 0x3f5, 1),
   (0x3f7, 0x3ff, 1), (0x1d26, 0x1d2a, 1), (0x1d66, 0x1d6a, 1), (0x1f00, 0x1f15, 1),
   (0x1f18, 0x1f1d, 1), (0x1f20, 0x1f45, 1), (0x1f48, 0x1f4d, 1), (0x1f50, 0x1f57, 1),
   (0x1f59, 0x1f5f, 2), (0x1f60, 0x1f7d, 1), (0x1f80, 0x1fb4, 1), (0x1fb6, 0x1fbc, 1),
   (0x1fbe, 0x1fbe, 1), (0x1fc2, 0x1fc4, 1), (0x1fc6, 0x1fcc, 1), (0x1fd0, 0x1fd3, 1),
   (0x1fd6, 0x1fdb, 1), (0x1fe0, 0x1fec, 1), (0x1ff2, 0x1ff4, 1), (0x1ff6, 0x1ffc, 1),
   (0xab65, 0xab65, 1), (0x10140, 0x10178, 1), (0x1018a, 0x1018b, 1)]

def cyrillic : List (Nat × Nat × Nat) :=
  [(0x400, 0x481, 1), (0x48a, 0x52f, 1), (0x1c80, 0x1c88, 1), (0x1d2b, 0x1d2b, 1),
   (0xa640, 0xa66e, 1), (0xa67f, 0xa69b, 1)]

def armenian : List (Nat × Nat × Nat) :=
  [(0x531, 0x556, 1), (0x559, 0x559, 1), (0x560, 0x588, 1), (0xfb13, 0xfb17, 1)]

def hebrew : List (Nat × Nat × Nat) :=
  [(0x591, 0x5bd, 1), (0x5bf, 0x5c1, 2), (0x5c2, 0x5c4, 2), (0x5c5, 0x5c7, 2), (0x5d0, 0x5ea, 1),
   (0x5ef, 0x5f2, 1), (0xfb1d, 0xfb28, 1), (0xfb2a, 0xfb36, 1), (0xfb38, 0xfb3c, 1),
   (0xfb3e, 0xfb40, 2), (0xfb41, 0xfb43, 2), (0xfb44, 0xfb46, 2), (0xfb47, 0xfb4f, 1)]

def arabic : List (Nat × Nat × Nat) :=
  [(0x610, 0x61a, 1), (0x620, 0x669, 1), (0x66e, 0x6d3, 1), (0x6d5, 0x6dc, 1), (0x6df, 0x6e8, 1),
   (0x6ea, 0x6ef, 1), (0x6fa, 0x6fc, 1), (0x6ff, 0x6ff, 1), (0x750, 0x77f, 1), (0x870, 0x887, 1),
   (0x889, 0x88e, 1), (0x898, 0x8e1, 1), (0x8e3, 0x8ff, 1), (0xfb50, 0xfbb1, 1),
   (0xfbd3, 0xfd3d, 1), (0xfd50, 0xfd8f, 1), (0xfd92, 0xfdc7, 1), (0xfdf0, 0xfdfb, 1),
   (0xfe70, 0xfe74, 1), (0xfe76, 0xfefc, 1), (0x1ee00, 0x1ee03, 1), (0x1ee05, 0x1ee1f, 1),
   (0x1ee21, 0x1ee22, 1), (0x1ee24, 0x1ee24, 1), (0x1ee27, 0x1ee29, 2), (0x1ee2a, 0x1ee32, 1),
   (0x1ee34, 0x1ee37, 1), (0x1ee39, 0x1ee3b, 2), (0x1ee42, 0x1ee42, 1), (0x1ee47, 0x1ee4d, 2),
   (0x1ee4e, 0x1ee4f, 1), (0x1ee51, 0x1ee52, 1), (0x1ee54, 0x1ee54, 1), (0x1ee57, 0x1ee61, 2),
   (0x1ee62, 0x1ee64, 2), (0x1ee67, 0x1ee6a, 1), (0x1ee6c, 0x1ee72, 1), (0x1ee74, 0x1ee77, 1),
   (0x1ee79, 0x1ee7c, 1), (0x1ee7e, 0x1ee80, 2), (0x1ee81, 0x1ee89, 1), (0x1ee8b, 0x1ee9b, 1),
   (0x1eea1, 0x1eea3, 1), (0x1eea5, 0x1eea9, 1), (0x1eeab, 0x1eebb, 1)]

def thai : List (Nat × Nat × Nat) :=
  [(0xe01, 0xe3a, 1), (0xe40, 0xe4e, 1), (0xe50, 0xe59, 1)]

def hiragana : List (Nat × Nat × Nat) :=
  [(0x3041, 0x3096, 1), (0x309d, 0x309f, 1), (0x1b001, 0x1b001, 1), (0x1b11f, 0x1b11f, 1),
   (0x1b150, 0x1b152, 1)]

def katakana : List (Nat × Nat × Nat) :=
  [(0x30a1, 0x30fa, 1), (0x30fc, 0x30ff, 1), (0x31f0, 0x31ff, 1), (0x1aff0, 0x1aff3, 1),
   (0x1aff5, 0x1affb, 1), (0x1affd, 0x1affe, 1), (0x1b000, 0x1b000, 1), (0x1b120, 0x1b122, 1),
   (0x1b164, 0x1b167, 1)]

def hangul : List (Nat × Nat × Nat) :=
  [(0x1100, 0x11ff, 1), (0x302e, 0x302f, 1), (0x3131, 0x318e, 1), (0xa960, 0xa97c, 1),
   (0xac00, 0xd7a3, 1), (0xd7b0, 0xd7c6, 1), (0xd7cb, 0xd7fb, 1)]

def han : List (Nat × Nat × Nat) :=
  [(0x3400, 0x4dbf, 1), (0x4e00, 0x9fff, 1), (0xf900, 0xfa6d, 1), (0xfa70, 0xfad9, 1),
   (0x20000, 0x2a6df, 1), (0x2a700, 0x2b738, 1), (0x2b740, 0x2b81d, 1), (0x2b820, 0x2cea1, 1),
   (0x2ceb0, 0x2ebe0, 1), (0x2f800, 0x2fa1d, 1), (0x30000, 0x3134a, 1)]

def georgian : List (Nat × Nat × Nat) :=
  [(0x10a0, 0x10c5, 1), (0x10c7, 0x10c7, 1), (0x10cd, 0x10cd, 1), (0x10d0, 0x10fa, 1),
   (0x10fd, 0x10ff, 1), (0x1c90, 0x1cba, 1), (0x1cbd, 0x1cbf, 1), (0x2d00, 0x2d25, 1),
   (0x2d27, 0x2d27, 1), (0x2d2d, 0x2d2d, 1)]

def devanagari : List (Nat × Nat × Nat) :=
  [(0x900, 0x963, 1), (0x966, 0x96f, 1), (0x971, 0x97f, 1), (0xa8f2, 0xa8f7, 1),
   (0xa8fb, 0xa8fd, 2), (0xa8fe, 0xa8ff, 1)]

end TestReach.Text.Script
