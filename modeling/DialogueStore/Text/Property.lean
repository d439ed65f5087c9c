/-
Properties of characters: general categories, scripts, and properties that a
character has or has not.

A property is a set of code points.  It is written as lines, for each range the
gap from the end of the range before and then its length less one, all in base
36, and read when somebody asks for it.  Property names are compared without
regard to case, blanks, hyphens, underscores and a leading "is".
-/
import DialogueStore.Text.CharClass

namespace DialogueStore.Text

/-- The general categories by their two-letter names. -/
def categoryTable : List (String × List String) :=
  [("lu",
    ["1t p 2u m 2 6 y 0 2 0 2 0 2 0 2 0 2 0 2 0 2 0 2 0 2 0 2 0 2 0 2 0 2 0 2 0 2 0 2 0 2 0 2 0 2",
     "0 2 0 2 0 2 0 2 0 2 0 2 0 2 0 2 0 3 0 2 0 2 0 2 0 2 0 2 0 2 0 2 0 3 0 2 0 2 0 2 0 2 0 2 0 2",
     "0 2 0 2 0 2 0 2 0 2 0 2 0 2 0 2 0 2 0 2 0 2 0 2 0 2 0 2 0 2 0 2 0 2 1 2 0 2 0 4 1 2 0 2 1 2",
     "2 3 3 2 1 2 2 4 1 2 1 2 0 2 0 2 1 2 0 3 0 2 1 2 2 2 0 2 1 4 0 8 0 3 0 3 0 3 0 2 0 2 0 2 0 2",
     "0 2 0 2 0 2 0 3 0 2 0 2 0 2 0 2 0 2 0 2 0 2 0 2 0 3 0 3 0 2 2 2 0 2 0 2 0 2 0 2 0 2 0 2 0 2",
     "0 2 0 2 0 2 0 2 0 2 0 2 0 2 0 2 0 2 0 2 0 2 0 2 0 2 0 2 0 2 0 2 0 2 0 2 0 2 0 2 0 2 0 8 1 2",
     "1 3 0 2 3 2 0 2 0 2 0 2 0 82 0 2 0 4 0 9 0 7 0 2 2 2 0 2 1 2 g 2 8 10 0 3 2 4 0 2 0 2 0 2 0",
     "2 0 2 0 2 0 2 0 2 0 2 0 2 0 2 0 6 0 3 0 2 1 3 1e 1d 0 2 0 2 0 2 0 2 0 2 0 2 0 2 0 2 0 2 0 2",
     "0 2 0 2 0 2 0 2 0 2 0 2 0 a 0 2 0 2 0 2 0 2 0 2 0 2 0 2 0 2 0 2 0 2 0 2 0 2 0 2 0 2 0 2 0 2",
     "0 2 0 2 0 2 0 2 0 2 0 2 0 2 0 2 0 2 0 2 0 2 1 2 0 2 0 2 0 2 0 2 0 2 0 3 0 2 0 2 0 2 0 2 0 2",
     "0 2 0 2 0 2 0 2 0 2 0 2 0 2 0 2 0 2 0 2 0 2 0 2 0 2 0 2 0 2 0 2 0 2 0 2 0 2 0 2 0 2 0 2 0 2",
     "0 2 0 2 0 2 0 2 0 2 0 2 0 2 0 2 0 2 0 2 0 2 0 2 0 2 0 2 0 2 0 2 0 2 0 2 0 2 0 3 11 28a 11 2",
     "0 6 0 k3 2d 1p0 0 7 16 3 2 8x 0 2 0 2 0 2 0 2 0 2 0 2 0 2 0 2 0 2 0 2 0 2 0 2 0 2 0 2 0 2 0",
     "2 0 2 0 2 0 2 0 2 0 2 0 2 0 2 0 2 0 2 0 2 0 2 0 2 0 2 0 2 0 2 0 2 0 2 0 2 0 2 0 2 0 2 0 2 0",
     "2 0 2 0 2 0 2 0 2 0 2 0 2 0 2 0 2 0 2 0 2 0 2 0 2 0 2 0 2 0 2 0 2 0 2 0 2 0 2 0 2 0 2 0 2 0",
     "2 0 2 0 2 0 2 0 2 0 2 0 2 0 2 0 2 0 2 0 2 0 2 0 2 0 a 0 2 0 2 0 2 0 2 0 2 0 2 0 2 0 2 0 2 0",
     "2 0 2 0 2 0 2 0 2 0 2 0 2 0 2 0 2 0 2 0 2 0 2 0 2 0 2 0 2 0 2 0 2 0 2 0 2 0 2 0 2 0 2 0 2 0",
     "2 0 2 0 2 0 2 0 2 0 2 0 2 0 2 0 2 0 2 0 2 0 2 0 2 0 2 0 2 0 2 0 a 7 9 5 b 7 9 7 9 5 c 0 2 0",
     "2 0 2 0 9 7 21 3 d 3 d 3 d 4 c 3 7b 0 5 0 4 2 3 2 3 0 4 4 7 0 2 0 2 0 2 3 3 3 b 1 6 0 1q 0",
     "22l 1b 1d 0 2 2 3 0 2 0 2 0 2 3 2 0 3 0 9 2 2 0 2 0 2 0 2 0 2 0 2 0 2 0 2 0 2 0 2 0 2 0 2 0",
     "2 0 2 0 2 0 2 0 2 0 2 0 2 0 2 0 2 0 2 0 2 0 2 0 2 0 2 0 2 0 2 0 2 0 2 0 2 0 2 0 2 0 2 0 2 0",
     "2 0 2 0 2 0 2 0 2 0 2 0 2 0 2 0 2 0 2 0 2 0 2 0 2 0 2 0 9 0 2 0 5 0 nym 0 2 0 2 0 2 0 2 0 2",
     "0 2 0 2 0 2 0 2 0 2 0 2 0 2 0 2 0 2 0 2 0 2 0 2 0 2 0 2 0 2 0 2 0 2 0 k 0 2 0 2 0 2 0 2 0 2",
     "0 2 0 2 0 2 0 2 0 2 0 2 0 2 0 2 0 3s 0 2 0 2 0 2 0 2 0 2 0 2 0 4 0 2 0 2 0 2 0 2 0 2 0 2 0",
     "2 0 2 0 2 0 2 0 2 0 2 0 2 0 2 0 2 0 2 0 2 0 2 0 2 0 2 0 2 0 2 0 2 0 2 0 2 0 2 0 2 0 2 0 2 0",
     "2 0 b 0 2 0 2 1 2 0 2 0 2 0 2 0 5 0 2 0 3 0 2 0 4 0 2 0 2 0 2 0 2 0 2 0 2 0 2 0 2 0 2 0 2 4",
     "2 4 2 0 2 0 2 0 2 0 2 0 2 0 2 0 2 3 2 0 2 1 4 0 6 0 2 0 2 0 2 0 p 0 h7w p xy 13 3t z 4d a 2",
     "e 2 6 2 1 1d7 1e 4e l 27v v gw1 v k2p p r p r p r 0 2 1 3 0 3 1 3 3 2 7 r p r 1 2 3 3 7 2 6",
     "s 1 2 3 2 4 2 0 4 6 s p r p r p r p r p r p v o y o y o y o y o y 0 3ee x"]),
   ("ll",
    ["2p p 1n 0 16 n 2 7 2 0 2 0 2 0 2 0 2 0 2 0 2 0 2 0 2 0 2 0 2 0 2 0 2 0 2 0 2 0 2 0 2 0 2 0",
     "2 0 2 0 2 0 2 0 2 0 2 0 2 0 2 0 2 0 2 1 2 0 2 0 2 0 2 0 2 0 2 0 2 0 2 1 2 0 2 0 2 0 2 0 2 0",
     "2 0 2 0 2 0 2 0 2 0 2 0 2 0 2 0 2 0 2 0 2 0 2 0 2 0 2 0 2 0 2 0 2 0 2 0 3 0 2 0 2 2 3 0 2 0",
     "3 0 4 1 5 0 3 0 4 2 3 0 3 0 2 0 2 0 3 0 2 1 2 0 3 0 4 0 2 0 3 1 3 2 7 0 3 0 3 0 2 0 2 0 2 0",
     "2 0 2 0 2 0 2 0 2 1 2 0 2 0 2 0 2 0 2 0 2 0 2 0 2 0 2 1 3 0 2 0 4 0 2 0 2 0 2 0 2 0 2 0 2 0",
     "2 0 2 0 2 0 2 0 2 0 2 0 2 0 2 0 2 0 2 0 2 0 2 0 2 0 2 0 2 0 2 0 2 0 2 0 2 0 2 0 2 0 2 0 2 6",
     "3 0 3 1 2 0 5 0 2 0 2 0 2 0 2 1w 3 p 5e 0 2 0 4 0 4 2 j 0 s y 2 1 4 2 2 0 2 0 2 0 2 0 2 0 2",
     "0 2 0 2 0 2 0 2 0 2 0 2 4 2 0 3 0 3 1 1g 1b 2 0 2 0 2 0 2 0 2 0 2 0 2 0 2 0 2 0 2 0 2 0 2 0",
     "2 0 2 0 2 0 2 0 2 0 a 0 2 0 2 0 2 0 2 0 2 0 2 0 2 0 2 0 2 0 2 0 2 0 2 0 2 0 2 0 2 0 2 0 2 0",
     "2 0 2 0 2 0 2 0 2 0 2 0 2 0 2 0 2 0 3 0 2 0 2 0 2 0 2 0 2 0 2 1 2 0 2 0 2 0 2 0 2 0 2 0 2 0",
     "2 0 2 0 2 0 2 0 2 0 2 0 2 0 2 0 2 0 2 0 2 0 2 0 2 0 2 0 2 0 2 0 2 0 2 0 2 0 2 0 2 0 2 0 2 0",
     "2 0 2 0 2 0 2 0 2 0 2 0 2 0 2 0 2 0 2 0 2 0 2 0 2 0 2 0 2 0 2 0 2 0 2 0 1d 14 288 16 3 2 l5",
     "5 1oj 8 2 0 3a 17 1s c 2 x 2v 0 2 0 2 0 2 0 2 0 2 0 2 0 2 0 2 0 2 0 2 0 2 0 2 0 2 0 2 0 2 0",
     "2 0 2 0 2 0 2 0 2 0 2 0 2 0 2 0 2 0 2 0 2 0 2 0 2 0 2 0 2 0 2 0 2 0 2 0 2 0 2 0 2 0 2 0 2 0",
     "2 0 2 0 2 0 2 0 2 0 2 0 2 0 2 0 2 0 2 0 2 0 2 0 2 0 2 0 2 0 2 0 2 0 2 0 2 0 2 0 2 0 2 0 2 0",
     "2 0 2 0 2 0 2 0 2 0 2 0 2 0 2 0 2 0 2 0 2 0 2 0 2 8 2 0 2 0 2 0 2 0 2 0 2 0 2 0 2 0 2 0 2 0",
     "2 0 2 0 2 0 2 0 2 0 2 0 2 0 2 0 2 0 2 0 2 0 2 0 2 0 2 0 2 0 2 0 2 0 2 0 2 0 2 0 2 0 2 0 2 0",
     "2 0 2 0 2 0 2 0 2 0 2 0 2 0 2 0 2 0 2 0 2 0 2 0 2 0 2 0 2 0 2 8 9 5 b 7 9 7 9 5 b 7 9 7 9 d",
     "3 7 9 7 9 7 9 4 2 1 7 0 4 2 2 1 9 3 3 1 9 7 b 2 2 1 7n 0 4 1 4 0 s 0 5 0 5 0 3 1 9 3 5 0 1i",
     "0 23w 1b 2 0 4 1 2 0 2 0 2 0 5 0 2 1 2 5 6 0 2 0 2 0 2 0 2 0 2 0 2 0 2 0 2 0 2 0 2 0 2 0 2",
     "0 2 0 2 0 2 0 2 0 2 0 2 0 2 0 2 0 2 0 2 0 2 0 2 0 2 0 2 0 2 0 2 0 2 0 2 0 2 0 2 0 2 0 2 0 2",
     "0 2 0 2 0 2 0 2 0 2 0 2 0 2 0 2 0 2 0 2 0 2 0 2 0 2 0 2 1 8 0 2 0 5 0 d 11 2 0 6 0 nx0 0 2",
     "0 2 0 2 0 2 0 2 0 2 0 2 0 2 0 2 0 2 0 2 0 2 0 2 0 2 0 2 0 2 0 2 0 2 0 2 0 2 0 2 0 2 0 k 0 2",
     "0 2 0 2 0 2 0 2 0 2 0 2 0 2 0 2 0 2 0 2 0 2 0 2 0 3s 0 2 0 2 0 2 0 2 0 2 0 2 2 2 0 2 0 2 0",
     "2 0 2 0 2 0 2 0 2 0 2 0 2 0 2 0 2 0 2 0 2 0 2 0 2 0 2 0 2 0 2 0 2 0 2 0 2 0 2 0 2 0 2 0 2 0",
     "2 0 2 0 2 0 2 0 2 0 2 7 2 0 2 0 3 0 2 0 2 0 2 0 2 0 5 0 2 0 3 0 2 2 2 0 2 0 2 0 2 0 2 0 2 0",
     "2 0 2 0 2 0 2 0 6 0 6 0 2 0 2 0 2 0 2 0 2 0 2 0 2 0 5 0 2 0 3 0 4 0 2 0 2 0 2 0 2 0 2 0 r 0",
     "4 0 mu 16 6 8 8 27 fnl 6 d 4 tm p y6 13 3t z 4c a 2 e 2 6 2 1 1dw 1e 3i l 27v v gw1 v k2j p",
     "r 6 2 h r p r 3 2 0 2 6 2 a r p r p r p r p r p r p r p r p r r t o 2 5 r o 2 5 r o 2 5 r o",
     "2 5 r o 2 5 2 0 1f9 9 2 j 7 5 1yw x"]),
   ("lt",
    ["cl 0 3 0 3 0 13 0 5ue 7 9 7 9 7 d 0 g 0 1c 0"]),
   ("lm",
    ["j4 h 5 b f 4 8 0 2 0 3q 0 6 0 db 0 6f 0 4l 1 7i 1 5 0 w 0 a 0 4 0 4h 0 4o 0 yd 0 3k 0 fq 0",
     "1cr 0 30 0 h0 0 cx 5 4v 1q e 0 z 10 j6 0 e 0 h c 2cg 1 6q 0 5c 0 d2 0 18 4 6 0 2q 1 2m 2",
     "lxz 0 yr 5 7j 0 37 0 t 1 3e 8 29 0 o 0 2y 2 4 1 d2 0 n 0 3u 0 31 0 m 1 2w 3 a 0 glj 0 1a 1",
     "1k1 5 2 15 2 8 13o 0 x 0 ij5 3 e5 2 15 1 fb c 1t 1 2 0 cnh 3 2 6 2 1 9iq 1p 5m 6 q6 0 v4 0"]),
   ("lo",
    ["4q 0 g 0 75 0 5 3 5t 1 mz q 5 3 1a v 2 9 10 1 2 2q 2 0 p 1 b 2 3 0 h 0 2 t u 2g c 0 p w m l",
     "17 o 8 a 6 n 2 5 i 14 1o 1h 4 0 j 0 8 9 h e 5 7 3 1 3 l 2 6 2 0 4 3 4 0 h 0 e 1 2 2 f 1 b 0",
     "9 5 5 1 3 l 2 6 2 1 2 1 2 1 w 3 2 0 k 2 h 8 2 2 2 l 2 6 2 1 2 4 4 0 j 0 g 1 o 0 c 7 3 1 3 l",
     "2 6 2 1 2 4 4 0 v 1 2 2 g 0 i 0 2 5 4 2 2 3 4 1 2 0 2 1 4 1 4 2 4 b n 0 1h 7 2 2 2 m 2 f 4",
     "0 r 2 3 0 3 1 v 0 5 7 2 2 2 m 2 9 2 4 4 0 w 1 2 1 g 1 i 8 2 2 2 14 3 0 h 0 6 2 9 2 p 5 6 h",
     "4 n 2 8 2 0 3 6 1n 1b 2 1 d 5 1o 1 2 0 2 4 2 n 2 0 2 9 2 1 a 0 3 4 o 3 x 0 1s 7 2 z s 4 38",
     "16 l 0 h 5 5 3 4 0 4 1 8 2 5 c d 0 36 94 2 3 3 6 2 0 2 3 3 14 2 3 3 w 2 3 3 6 2 0 2 3 3 e 2",
     "1k 2 3 3 1u 12 f 36 h7 3 g 2 p 6 22 7 7 8 h e i f h f c 2 2 g 1f 15 0 1w y 2 1g 8 4 3 x 2 0",
     "6 1x b u 1e t 3 4 c 17 5 p 1j m a 1g 4x 1a i 7 1j t e 1 b 17 r z 16 2 b t 36 3 2 5 2 1 4 0",
     "u3 3 2d4 1j p m a 6 2 6 2 6 2 6 2 6 2 6 2 6 2 6 fc 0 1i 0 5 2d 9 0 2 2h 5 0 6 16 2 2l i v",
     "1d f e9 533 1t g7o 2 vq 1w 13 9 7f 5 f b 1 1v 0 1e 1x 4q 0 2w 0 4 6 2 2 2 3 2 m u 1f f 1d",
     "1r 5 4 0 2 1 c r b m q s 8 1a 1a 4 3 8 b 4 2 14 o 2 2 7 l f 2 5 4 0 4 1d 2 0 4 1 3 4 3 0 2",
     "0 p 1 4 a 8 0 f 5 3 5 3 5 a 6 2 6 42 y u 8mb d m 5 1c 6it a5 3 2x 1w 0 2 9 2 c 2 4 2 0 2 1",
     "2 1 2 2z y a2 j 1r 3 1h 15 b 39 4 2 3q 2y 9 2 18 3 u 4 5 3 5 3 5 3 2 10 b 2 p 2 i 2 1 2 e 3",
     "d z 3e au s 4 1c 1c v e j 2 7 7 11 b t 3 z 5 7 3l 25 2r 13 9 1f 2l 1f d 8m a l b 7 49 5 3 0",
     "2 17 2 1 4 0 3 m b m a u 1u i 2 1 b l b p 1z 1j 7 1 1t 0 g 3 2 2 2 s 17 s 4 s 10 7 2 r s 1h",
     "b l b i e h 33 20 54 z 13 3 2 0 8h 15 7 1 h 2 1o s b 0 9 l 17 h 1b k s m d 1g 1m 1 3 0 e 18",
     "x o r z u 0 3 0 9 y 4 0 d 1b f 3 m 0 2 0 10 h 2 o k 1 1s 6 2 0 2 3 2 e 2 9 8 1a 13 7 3 1 3",
     "l 2 6 2 1 2 4 4 0 j 0 d 4 v 9 2 0 3 0 2 11 2 0 q 0 2 0 19 1g j 3 l 2 v 1b l 1 2 0 55 1a 16",
     "3 11 1b l 0 1o 16 e 0 20 q 12 6 56 17 5w 7 3 0 3 7 2 1 2 n g 0 2 0 2n 7 3 12 h 0 2 0 t 0 b",
     "13 8 0 m 0 c 19 k 0 j 20 5k w w 8 2 10 i 0 1e t 35 6 2 1 2 11 m 0 q 5 2 1 2 v f 0 94 i g 0",
     "2 c 2 x 3h 0 28 pl 6f 5f 219 2o g tr i 5 q 32y 6 g6 5a2 t 1cz fs 8 u i 26 i t j 1b 1g k 6 i",
     "c4 13 ba 22 6 0 4w 4qf 9 yd 16 9 6wo 82 g 0 u 2 3 0 f 3 9 az 1s5 2y 6 c 4 8 8 9 6sx 0 dy 18",
     "y 0 8y t j 17 dh q 6e t 3 0 ds 6 2 3 2 1 2 e 2 5g 118 3 2 q 2 1 2 0 3 0 2 9 2 3 2 0 2 0 7 0",
     "5 0 2 0 2 0 2 2 2 1 2 0 3 0 2 0 2 0 2 0 2 0 2 1 2 0 3 3 2 6 2 3 2 3 2 0 2 9 2 g 6 2 2 4 2 g",
     "3et wyn x 37d 7 65 3 4g1 f 5rk g h9 1wj f1 15v 3t6 6 38f"]),
   ("mn",
    ["lc 33 7o 4 7e 18 2 0 2 1 2 1 2 0 21 a 1d k h 0 2u 6 3 5 3 1 2 3 10 0 v q 2k a 1n 8 a 0 p 3",
     "2 8 2 2 2 4 18 2 1o 8 17 n 2 v 1k 0 2 0 5 7 5 0 4 6 b 1 u 0 1n 0 5 3 9 0 l 1 r 0 3 1 1m 0 5",
     "1 5 1 3 2 4 0 v 1 4 0 c 1 1m 0 5 4 2 1 5 0 l 1 n 5 2 0 1n 0 3 0 2 3 9 0 8 1 c 1 v 0 1q 0 d",
     "0 1f 0 4 0 1k 0 2 2 6 2 2 3 8 1 c 1 u 0 1n 0 3 0 7 0 6 1 l 1 t 1 1m 1 5 3 9 0 l 1 u 0 21 0",
     "8 2 2 0 2j 0 3 6 d 7 2r 0 3 8 c 6 22 1 s 0 2 0 2 0 1k d 2 4 2 1 6 a 2 z a 0 2v 3 2 5 2 1 3",
     "1 q 1 5 2 h 3 e 0 3 1 7 0 g 0 jk 2 qb 2 u 1 v 1 v 1 1t 1 2 6 9 0 3 a a 0 1a 2 2 0 3a 1 z 0",
     "3b 2 5 1 a 0 7 2 64 1 3 0 1n 0 2 6 2 0 2 0 3 7 7 9 3 0 1d d 2 f 1e 3 1d 0 2 4 2 0 6 0 15 8",
     "d 1 x 3 3 1 2 2 1l 0 2 1 4 0 2 2 1n 7 3 1 49 2 2 c 2 6 5 0 7 0 4 1 5j 1r k1 c 5 0 4 b 2db 2",
     "3y 0 2p v ff 3 30 1 n9x 0 5 9 x 1 29 1 7l 0 4 0 5 0 q 1 6 0 48 1 r h e 0 13 7 q a 1b 2 1d 0",
     "3 3 3 1 14 0 1w 5 3 1 3 1 d 0 9 0 1c 0 1g 0 2 2 3 1 6 1 2 0 17 1 9 0 6n 0 3 0 5 0 fn5 0 ki",
     "f h f r2 0 6b 0 46 4 1af 2 2 1 6 3 15 2 5 0 4m 1 fy 3 1u 4 8u 1 28 3 1z a 1e 3 3g 0 1j e 16",
     "0 3 1 b 2 1e 3 3 1 8 0 1q 2 11 4 2 7 1r 0 d 1 1h 8 b 3 3 0 2o 2 3 0 2 1 7 0 3 0 4e 0 4 7 m",
     "1 1m 1 4 0 12 6 4 4 1z 5 e 0 2 0 2 0 f 1 2e 7 3 2 2 0 o 0 2d 5 2 0 5 1 2 1 6n 3 7 1 2 1 s 1",
     "2e 7 3 0 2 1 2z 0 2 0 3 5 2 0 2u 0 2 0 3 3 2 4 78 8 2 1 75 1 2 0 5 0 41 3 3 1 5 0 x 9 15 5",
     "3 3 9 0 a 5 3 2 1b c 2 1 bb 6 2 5 2 0 2b l 3 6 2 1 2 1 3f 5 4 0 2 1 2 6 2 0 21 1 4 0 2 0 9o",
     "1 c 1 1h 4 6 0 2 0 o 0 44m 0 7 e 8uh b 4 2 1xd 4 1o 6 t5 0 1s 3 2a 0 f5l 1 3mq 19 3 m f5 2",
     "i 7 3 6 v 3 45 2 1j0 1i 5 1d 9 0 f 0 n 4 2 e 11t 6 2 g 3 6 2 1 2 4 2t 0 4h 6 ag 0 1q 3 e5 3",
     "73 1 kh 6 32 6 gzhy 6n"]),
   ("mc",
    ["1s3 0 1k 0 3 2 9 3 2 1 1f 1 1n 2 7 1 3 1 b 0 18 0 1n 2 1v 0 1n 2 9 0 2 1 1i 1 1n 0 2 0 7 1",
     "3 1 b 0 2v 1 2 1 4 2 2 2 b 0 16 2 1q 3 1q 1 1n 0 2 4 3 1 2 1 a 1 t 0 f 1 1n 2 6 2 2 2 b 0",
     "17 1 24 2 7 7 j 1 97 1 1s 0 4s 1 5 0 7 0 3 1 q 1 b 2 3 6 m 1 3 5 3 0 b 2 1a1 0 v 0 3m 0 8 7",
     "2 1 9n 3 3 2 5 1 2 5 69 1 1n 0 2 0 a 0 2 1 9 5 42 0 1d 0 6 0 2 4 2 1 1q 0 v 0 5 1 3 0 1p 0",
     "3 2 2 0 4 1 1d 7 9 1 4s 0 m 0 3sn 1 np0 1 3 0 2h 1 1f f 3z 1 1c 0 1d 1 5 1 3 2 33 1 3 1 p 0",
     "1a 0 2 0 32 0 3 1 6 0 6m 1 2 1 2 1 2 0 jro 0 2 0 3k 0 1a 2 5 1 38 0 p 1 1o 0 1d 2 a 1 e 0",
     "2m 2 4 1 2 0 4r 2 w 1 1n 1 2 3 3 1 3 2 a 0 b 1 2d 2 8 0 3 0 2 3 2 1 2 0 2u 2 9 1 4 0 2z 2 7",
     "0 2 3 3 0 6m 2 7 3 3 0 36 2 9 1 2 0 32 0 2 1 7 0 2w 0 2 1 5 0 7a 2 a 0 6w 5 2 1 5 0 3 0 2 0",
     "3z 2 9 3 5 0 2d 0 u 1 1r 0 bc 0 f 0 2z 0 8 0 3 0 5y 4 5 1 2 0 9r 1 d 0 1d 1 9 1 2 0 d0p 2",
     "2sl 1i 2x 1 j90 1 7 5"]),
   ("me",
    ["w8 1 4dx 0 17j 3 2 2 qdo 2"]),
   ("nd",
    ["1c 9 17r 9 3r 9 5j 9 bh 9 3b 9 3b 9 3b 9 3b 9 3b 9 3b 9 3b 9 3b 9 3b 9 2p 9 3b 9 1z 9 7r 9",
     "1z 9 1fr 9 13 9 8d 9 3l 9 4n 9 7 9 53 9 2f 9 3r 9 7 9 r7r 9 iv 9 13 9 5j 9 n 9 2f 9 bb 9",
     "gev 9 13b 9 1on 9 7 9 m5 9 3l 9 1p 9 41 9 7r 9 9j 9 3b 9 af 9 2v 9 7 j 25 9 br 9 2v 9 if 9",
     "2f 9 6v 9 1z 9 br 9 d07 9 1t3 9 2f 9 3r 9 ev 9 iuv 9 251 1d 1tt 9 br 9 dz 9 6w 9 nq 9",
     "3o7 9"]),
   ("nl",
    ["4j2 2 228 y 3 3 2v3 0 q 8 f 2 nfw 9 hu9 1g ct 0 9 0 3r 4 6cr 32"]),
   ("no",
    ["4y 1 6 0 3 2 1ti 5 ah 5 3d 2 3q 6 62 6 i 8 c2 9 ty j vo 9 dd 0 1au 0 4 5 7 9 5j f 16 0 k7",
     "1n 27 l hj t 12i 0 wl 3 3v 9 v 7 2 e x 9 14 e n75 5 hjm 18 1u 3 i 1 9i q 11 3 111 7 q 6 14",
     "8 24 4 n 5 4h 1 3 f 3 19 1t 8 1h 1 v 2 24 4 2x 7 p 7 16 6 97 5 9t u 4f 9 17 3 35 6 3r j ak",
     "j 11i 1 bz 8 o8 i no k ex3 6 m7 m jsa j d j 31 o 47j 8 pu 1m 2 2 2 3 25 18 2 e qr c"]),
   ("pc",
    ["2n 0 6ao 1 k 0 17tr 1 p 2 6o 0"]),
   ("pd",
    ["19 0 125 0 1g 0 2te 0 sm 0 1l6 5 2rm 0 3 0 w 1 5 0 t 0 cf 0 k 0 34 0 14lt 1 12 0 b 0 4q 0",
     "2u9 0 8v 0"]),
   ("ps",
    ["14 0 1f 0 w 0 2wv 0 2 0 1gf 0 1vj 0 4 0 13 0 1k 0 g 0 hn 0 2 0 v 0 u7 0 2 0 2 0 2 0 2 0 2 0",
     "2 0 29 0 x 0 2 0 2 0 2 0 2 0 b9 0 2 0 2 0 2 0 2 0 2 0 2 0 2 0 2 0 2 0 2 0 1t 0 2 0 y 0 ti 0",
     "2 0 2 0 2 0 q 0 j 0 2 0 2 0 2 0 bx 0 2 0 2 0 2 0 2 0 4 0 2 0 2 0 2 0 3 0 14iq 0 60 0 u 0 2",
     "0 2 0 2 0 2 0 2 0 2 0 2 0 4 0 i 0 2 0 2 0 4r 0 1f 0 w 0 4 0 3 0"]),
   ("pe",
    ["15 0 1g 0 w 0 2wu 0 2 0 1gf 0 1wq 0 1k 0 g 0 hn 0 2 0 v 0 u7 0 2 0 2 0 2 0 2 0 2 0 2 0 29 0",
     "x 0 2 0 2 0 2 0 2 0 b9 0 2 0 2 0 2 0 2 0 2 0 2 0 2 0 2 0 2 0 2 0 1t 0 2 0 y 0 ti 0 2 0 2 0",
     "2 0 19 0 2 0 2 0 2 0 bx 0 2 0 2 0 2 0 2 0 4 0 2 0 2 0 2 0 3 1 14in 0 62 0 u 0 2 0 2 0 2 0 2",
     "0 2 0 2 0 2 0 4 0 i 0 2 0 2 0 4r 0 1g 0 w 0 3 0 3 0"]),
   ("pi",
    ["4r 0 67h 0 3 1 3 0 q 0 2q1 0 2 0 5 0 3 0 g 0 4 0"]),
   ("pf",
    ["57 0 672 0 4 0 t 0 2q1 0 2 0 5 0 3 0 g 0 4 0"]),
   ("po",
    ["x 2 2 2 3 0 2 0 2 1 b 1 4 1 s 0 1x 0 6 0 f 1 8 0 jj 0 9 0 cz 5 16 0 1j 0 3 0 3 0 19 1 l 1 2",
     "1 e 0 2 2 23 3 2v 0 18 d 6i 2 1j e w 0 7a 1 b 0 3x 0 3d 0 3e 0 av 0 d 0 a8 0 2j 0 b 1 4p e",
     "2 0 35 0 23 4 5 1 34 5 4s 0 h1 8 li 0 3h 2 20 1 4e 2 2 2 12 5 2 3 8q 1 61 1 3l 6 2 5 4h 1 b",
     "6 t 2 3h 3 1o 4 1r 1 1t 7 c 0 n7 1 9 7 9 8 3 3 3 2 4 a 2 0 2 9 2hn 3 2 1 35 0 40 1 5 2 3 0",
     "3 8 2 1 2 0 3 1 b 4 2 9 3 3 2 0 2 c 3 2 bx 2 1m 0 5a 0 mwz 1 7i 2 2s 0 b 0 38 5 al 3 2f 1",
     "15 2 2 0 1e 1 1c 0 2q c h 1 3h 3 3j 1 h 1 6y 0 g85 6 3 0 n 0 l 1 3 3 4 2 2 3 8 2 7 0 2 1 46",
     "2 2 2 3 0 2 0 2 1 b 1 4 1 s 0 11 0 3 1 bf 2 il 0 1d 0 bj 0 ko 0 5k 0 w 0 7l 8 13 0 35 6 1v",
     "6 2i 3 qh 4 19 3 5a 6 32 1 2 3 3j 3 1d 1 28 3 5 0 e 0 2 2 2h 5 30 0 8b 1 2 1 37 4 b 1 2 0",
     "2x 0 6z m 2y 2 t c 25 0 3n 2 71 0 7d 2 4c 0 2l 7 2c 2 2 4 2m 9 60 0 2o 4 17 1 hy 1 23 c 4w",
     "0 vl 4 29p 1 bjw 1 3q 0 1u 4 9 0 fd 2 88 3 94 0 f5p 0 5wo 4 29g 0 nz 1"]),
   ("sm",
    ["17 0 h 2 1q 0 2 0 1a 0 5 0 12 0 w 0 lb 0 eo 2 56k 0 e 0 14 2 e 2 3w 0 14 4 7 0 1x 4 6 1 5 0",
     "3 0 3 0 8 0 w 1 3 0 2 0 w 7f x 1 2j 0 v o 15 5 d2 0 a 0 1j 7 34 0 9d 4 3 u b f 75 3m n 1q 5",
     "v 3 75 1d k 3 5 1525 0 mx 0 2 2 4l 0 h 2 1q 0 2 0 3o 0 7 3 2oy 1 13qq 0 q 0 w 0 q 0 w 0 q 0",
     "w 0 q 0 w 0 q 0 4kt 1"]),
   ("sc",
    ["10 0 3i 3 yy 0 3g 0 dv 1 dv 1 8 0 6u 0 7c 0 g6 0 1wc 0 1qd w qrc 0 gxw 0 31 0 4b 0 64 1 4 1",
     "6bb 3 12jj 0 1wx 0"]),
   ("sk",
    ["2m 0 2 0 20 0 7 0 5 0 4 0 ei 3 d d 6 6 2 0 2 g 3a 0 f 1 zn 0 4l1 0 2 2 c 2 e 2 e 2 e 1 3a5",
     "1 ndw m a 1 2w 1 r5 0 f 1 fuv g os 0 2 0 4j 0 1c7s 4"]),
   ("so",
    ["4m 0 3 0 5 0 2 0 r6 0 7f 1 3k 1 5r 0 b 0 k 1 6w 0 ec 0 ae 0 3n 5 2 0 3p 0 5s 0 16 0 aw 2 g",
     "0 2 2 3 5 l 0 2 0 2 0 3q 7 2 5 2 1 6 3 5i 1 kx 9 k4 0 k3 0 4e x 9u 9 a 8 138 1 2 3 2 1 b 0",
     "2 1 7 5 2 0 2 0 2 0 5 0 c 1 f 0 2 1 2 0 1n 1 a 4 3 3 2 1 2 1 2 6 2 u 3 1 2 0 2 u 7h 7 5 j 3",
     "6 3 28 2 t q 13 7 1z n a 2a 25 n 52 2 8 2 1h 9 32 2 6v 19 17 1t 73 e9 1b m 1 7 12 3 v 2 2w",
     "6e 5 9y 1 1b p 2 2g d 5x r f 5 0 e 1 d 0 m 1 7 1 9d 1 5 9 x 11 a 0 h u c t 9 0 g v b 12 g",
     "8v 535 1r h3l 1i o2 3 b 1 2 0 fy 2 gcn f 3k 0 1a 2 dh 0 4 0 5 1 e 1 8q 8 1m g 3 2 2 c 4 0",
     "1c 18 1a3 1 gg 0 2gn 0 1p2 7 5 g evf 3 6 0 g2f 0 31g 6n h c3 4d 37 1p 6t b 12 3 1n 6 2 n 1",
     "8 t 5 1o m 1t 4 0 57 2e x6 e7 1k 3 1f 7 2 d 2 1 1c9 0 28t 0 3m 0 k2 17 5 2r d e 3 e 2 e 2",
     "10 o 4g 1l s e 17 5 8 8 1 f 5 4b 6y 6 k7 5 g 4 c 4 3a 5 2m 7 b 5 0 g b 5 1j 9 9 7 13 9 t 3",
     "b 5 1 1r 9f d d 3 c 4 9 6 1j 8 e 3 a 7 8 8 42 2 2j"]),
   ("zs",
    ["w 0 3k 0 4bk 0 1vk a 11 0 1c 0 335 0"]),
   ("zl",
    ["6co 0"]),
   ("zp",
    ["6cp 0"]),
   ("cc",
    ["0 v 2o w"]),
   ("cf",
    ["4t 0 11v 5 n 0 5d 0 1e 0 ap 1 29 0 2zw 0 1kt 4 r 4 1e 4 2 9 17yo 0 6y 2 3b6 0 g 0 6zn f qxt",
     "3 440 7 h407 0 v 2n"]),
   ("co",
    ["188w 4xr jpc1 1ekd 3 1ekd"])]

/-- The scripts by their full names. -/
def scriptTable : List (String × List String) :=
  [("adlam",
    ["2olc 23 5 9 5 1"]),
   ("ahom",
    ["1j40 q 3 e 5 m"]),
   ("anatolianhieroglyphs",
    ["1s00 g6"]),
   ("arabic",
    ["16o 4 2 5 2 d 2 2 2 v 2 9 c p 2 2z 2 x 29 1b 6p u 2 1 6 22 2 s 1bv5 36 h a2 3 27 3 1h 8 0 x",
     "f 35 4 2 3q 31g u 1w 2 1k 3 181t 3 2 q 2 1 2 0 3 0 2 9 2 3 2 0 2 0 7 0 5 0 2 0 2 0 2 2 2 1",
     "2 0 3 0 2 0 2 0 2 0 2 0 2 1 2 0 3 3 2 6 2 3 2 3 2 0 2 9 2 g 6 2 2 4 2 g 1h 1"]),
   ("armenian",
    ["10x 11 3 1d 3 2 1chw 4"]),
   ("avestan",
    ["1gqo 1h 4 6"]),
   ("balinese",
    ["5c0 24 2 1d"]),
   ("bamum",
    ["www 2f 124p fs"]),
   ("bassavah",
    ["1zo0 t 3 5"]),
   ("batak",
    ["5hc 1f 9 3"]),
   ("bengali",
    ["1vk 3 2 7 3 1 3 l 2 6 2 0 4 3 3 8 3 1 3 3 9 0 5 1 2 4 3 o"]),
   ("bhaiksuki",
    ["1k3k 8 2 18 2 d b s"]),
   ("bopomofo",
    ["kq 1 93u 16 35 v"]),
   ("brahmi",
    ["1hq8 25 5 z a 0"]),
   ("braille",
    ["7wg 73"]),
   ("buginese",
    ["54w r 3 1"]),
   ("buhid",
    ["4lc j"]),
   ("canadianaboriginal",
    ["3y8 hr fl 1x 1ewr f"]),
   ("carian",
    ["1f34 1c"]),
   ("caucasianalbanian",
    ["1flc 1f c 0"]),
   ("chakma",
    ["1hxc 1g 2 h"]),
   ("cham",
    ["xkw 1i a d 3 9 3 3"]),
   ("cherokee",
    ["3vk 2d 3 5 twz 27"]),
   ("chorasmian",
    ["1ho0 r"]),
   ("common",
    ["0 1s r 5 r 1a 2 e 2 4 o 0 w 0 ci 12 6 4 3 j 39 0 a 0 7 0 2 0 hq 0 7 0 f 0 4 0 x 0 4d 0 ed 0",
     "3m 1 yi 0 ba 3 83 0 168 2 20 1 5o 1 2 0 y6 0 e 0 8 3 2 5 2 2 3 0 li b 3 2e 2 a 4 a 2 e i w",
     "1s 11 2 2 3 5 2 q 2 g 16 2 5 ih n a m pr 75 hf 3 v 2 2w e9 2l b7 k 2 0 2 o g 7 5 3 2k 1 4 0",
     "2j 1 44 f x 11 a 0 1d 1r w 28 1c 0 2h 4n 535 1r hkx x 2v 2 4m 9 6t 0 4h 0 b0 0 f 1 g5v 1 5t",
     "9 n y 2 i 2 3 44 0 2 v r 5 r a b 0 1a 1 1t 6 2 6 b 4 77 2 5 18 4 8 29 c 1g 18 6d q 10o5 3",
     "319 6x 7 c3 4d 37 1p 6t b 12 3 1p 4 g 9 1 8 t 5 1o 5y j d j d 2e a o 3s 2c 2 1y 2 1 3 0 3 1",
     "3 3 2 b 2 0 2 6 2 1s 2 3 3 7 2 6 2 r 2 3 2 4 2 0 4 6 2 9f 3 83 3 1d 41e 1v 25 1o jn 17 5 2r",
     "d e 3 e 2 e 2 10 b 4t 1l p 2 1 e 17 5 8 8 1 f 5 4b rb 5 g 4 c 4 3a 5 2m 7 b 5 0 g b 5 1j 9",
     "9 7 13 9 t 3 b 5 1 1r 9f d d 3 c 4 9 6 1j 8 e 3 a 7 8 8 42 2 2t gvm0 0 v 2n"]),
   ("coptic",
    ["rm d 80h 37 6 6"]),
   ("cuneiform",
    ["1kw0 pl 2v 32 2 4 c 5f"]),
   ("cypriot",
    ["1g5c 5 3 0 2 17 2 1 4 0 3 0"]),
   ("cyprominoan",
    ["1nyo 2q"]),
   ("cyrillic",
    ["sg 3o 3 4o 4lt a 4h 0 25 0 38o v nr5 2n han 1 18n5 1p y 0"]),
   ("deseret",
    ["1fcw 27"]),
   ("devanagari",
    ["1s0 28 5 e 3 p vhd v mip 9"]),
   ("divesakuru",
    ["1ji8 6 3 0 3 7 2 1 2 t 2 1 3 b a 9"]),
   ("dogra",
    ["1jb4 1n"]),
   ("duployan",
    ["2fpc 2y 6 c 4 8 8 9 3 3"]),
   ("egyptianhieroglyphs",
    ["1o1s ut b 32y"]),
   ("elbasan",
    ["1fk0 13"]),
   ("elymaic",
    ["1hpc m"]),
   ("ethiopic",
    ["3k0 20 2 3 3 6 2 0 2 3 3 14 2 3 3 w 2 3 3 6 2 0 2 3 3 e 2 1k 2 3 3 1u 3 v 4 p 547 m a 6 2 6",
     "2 6 2 6 2 6 2 6 2 6 2 6 opv 5 3 5 3 5 a 6 2 6 1qk2 6 2 3 2 1 2 e"]),
   ("garay",
    ["1h6o 11 4 s 9 1"]),
   ("georgian",
    ["3a8 11 2 0 6 0 3 16 2 3 2a9 16 3 2 37l 11 2 0 6 0"]),
   ("glagolitic",
    ["8ow 2n 2e1t 6 2 g 3 6 2 1 2 4"]),
   ("gothic",
    ["1f74 q"]),
   ("grantha",
    ["1ibk 3 2 7 3 1 3 l 2 6 2 1 2 4 3 8 3 1 3 2 3 0 7 0 6 6 3 6 4 4"]),
   ("greek",
    ["og 3 2 2 3 3 2 0 5 0 2 0 2 2 2 0 2 j 2 1q f f 4yv 4 1f 4 5 4 2d 0 8x l 3 5 3 11 3 5 3 7 2 0",
     "2 0 2 0 2 u 3 1g 2 e 2 d 3 5 2 i 3 2 2 8 88 0 rb3 0 gyj 26 i 0 155s 1x"]),
   ("gujarati",
    ["22p 2 2 8 2 2 2 l 2 6 2 1 2 4 3 9 2 2 2 2 3 0 g 3 3 b 8 6"]),
   ("gunjalagondi",
    ["1kdc 5 2 1 2 10 2 1 2 5 8 9"]),
   ("gurmukhi",
    ["1z5 2 2 5 5 1 3 l 2 6 2 1 2 1 2 1 3 0 2 4 5 1 3 2 4 0 8 3 2 0 8 g"]),
   ("gurungkhema",
    ["1xq8 1l"]),
   ("han",
    ["96o p 2 2g d 5x 1c 0 2 0 q 8 f 3 qt 533 1t g73 hkx a5 3 2x n49 1 d 1 sgf wyn x 37d 7 65 3",
     "4g1 f 5rk g h9 1wj f1 15v 3t6 6 38f"]),
   ("hangul",
    ["3cw 73 5yn 1 76 2l 36 u 1u u nhe s hw 8mb d m 5 1c 7tx u 4 5 3 5 3 5 3 2"]),
   ("hanifirohingya",
    ["1h4w 13 9 9"]),
   ("hanunoo",
    ["4kg k"]),
   ("hatran",
    ["1gbk i 2 1 6 4"]),
   ("hebrew",
    ["13l 1i 9 q 5 5 1cfd p 2 4 2 0 2 1 2 1 2 9"]),
   ("hiragana",
    ["9j5 2d 7 2 23qa 7y j 0 u 2 cry 0"]),
   ("imperialaramaic",
    ["1g74 l 2 8"]),
   ("inherited",
    ["lc 33 7q 1 cl a r 0 kh 3 3fg u ea 2 2 c 2 6 5 0 7 0 4 1 5j 1r el 1 5f w 30a 3 30 1 14km f h",
     "d r4 0 6b 0 38b 0 1139 19 3 m f5 2 i 7 3 6 v 3 h45v 6n"]),
   ("inscriptionalpahlavi",
    ["1gtc i 6 7"]),
   ("inscriptionalparthian",
    ["1gsg l 3 7"]),
   ("javanese",
    ["xhc 25 3 9 5 1"]),
   ("kaithi",
    ["1hts 1u b 0"]),
   ("kannada",
    ["2gw c 2 2 2 m 2 9 2 4 3 8 2 2 2 3 8 1 7 1 2 3 3 9 2 2"]),
   ("katakana",
    ["9lt 2h 3 2 6p f 5t 1a 2 2f 14b3 9 2 18 ytv 3 2 6 2 1 2 0 80 2 1f 0 f 3"]),
   ("kawi",
    ["1kow g 2 14 4 s"]),
   ("kayahli",
    ["xds 19 2 0"]),
   ("kharoshthi",
    ["1gjk 3 2 1 6 7 2 2 2 s 3 2 5 9 8 8"]),
   ("khitansmallscript",
    ["20o4 0 5cs d1 16 0"]),
   ("khmer",
    ["4n4 2l 3 9 7 9 dj v"]),
   ("khojki",
    ["1i4g h 2 1a"]),
   ("khudawadi",
    ["1i9c 1m 6 9"]),
   ("kiratrai",
    ["205c 1l"]),
   ("lao",
    ["2v5 1 2 0 2 4 2 n 2 0 2 m 3 4 2 0 2 6 2 9 3 3"]),
   ("latin",
    ["1t p 7 p 1c 0 g 0 6 m 2 u 2 cg 14 4 55o 11 7 1c 6 3 6 c 2 1x 1u 73 aa 0 e 0 h c 3y 1 7 0 s",
     "0 i 14 254 v o83 2t 4 1u 3 1 2 0 2 7 m d mp 16 2 8 2 3 fpz 6 t7 p 7 p 1ly 5 2 15 2 8 16iu u",
     "7 5"]),
   ("lepcha",
    ["5j4 1j 4 e 4 2"]),
   ("limbu",
    ["4xs u 2 b 5 b 5 0 4 b"]),
   ("lineara",
    ["1fr4 8m a l b 7"]),
   ("linearb",
    ["1ekg b 2 p 2 i 2 1 2 e 3 d z 3e"]),
   ("lisu",
    ["wk0 1b o8h 0"]),
   ("lycian",
    ["1f28 s"]),
   ("lydian",
    ["1gdc p 6 0"]),
   ("mahajani",
    ["1hzk 12"]),
   ("makasar",
    ["1ko0 o"]),
   ("malayalam",
    ["2kg c 2 2 2 1e 2 2 2 5 5 f 3 p"]),
   ("mandaic",
    ["1mo r 3 0"]),
   ("manichaean",
    ["1gow 12 5 b"]),
   ("marchen",
    ["1k6o v 3 l 2 d"]),
   ("masaramgondi",
    ["1kao 6 2 1 2 17 4 0 2 1 2 8 9 9"]),
   ("medefaidrin",
    ["20cg 2i"]),
   ("meeteimayek",
    ["xr4 m 5m 19 3 9"]),
   ("mendekikakui",
    ["2oe8 5g 3 f"]),
   ("meroiticcursive",
    ["1ggw n 5 j 3 19"]),
   ("meroitichieroglyphs",
    ["1gg0 v"]),
   ("miao",
    ["20hs 22 5 1k 8 g"]),
   ("modi",
    ["1iww 1w c 9"]),
   ("mongolian",
    ["4qo 1 3 0 2 j 7 2g 8 16 1e46 c"]),
   ("mro",
    ["1zk0 u 2 9 5 1"]),
   ("multani",
    ["1i80 6 2 0 2 3 2 e 2 a"]),
   ("myanmar",
    ["35s 4f u9t u 2q v le9 j"]),
   ("nabataean",
    ["1g8w u 9 8"]),
   ("nagmundari",
    ["2nrk 15"]),
   ("nandinagari",
    ["1jmo 7 3 19 3 a"]),
   ("newtailue",
    ["51c 17 5 p 7 a 4 1"]),
   ("newa",
    ["1iio 2j 2 4"]),
   ("nko",
    ["1j4 1m 3 2"]),
   ("nushu",
    ["20o1 0 cy7 az"]),
   ("nyiakengpuachuehmong",
    ["2n0g 18 4 d 3 9 5 1"]),
   ("ogham",
    ["4g0 s"]),
   ("olchiki",
    ["5lc 1b"]),
   ("olonal",
    ["2nyo 16 5 0"]),
   ("oldhungarian",
    ["1h1c 1e e 1e 8 5"]),
   ("olditalic",
    ["1f5s z a 2"]),
   ("oldnortharabian",
    ["1gn4 v"]),
   ("oldpermic",
    ["1f80 16"]),
   ("oldpersian",
    ["1fa8 z 5 d"]),
   ("oldsogdian",
    ["1hj4 13"]),
   ("oldsoutharabian",
    ["1gm8 v"]),
   ("oldturkic",
    ["1gxs 20"]),
   ("olduyghur",
    ["1hm8 p"]),
   ("oriya",
    ["269 2 2 7 3 1 3 l 2 6 2 1 2 4 3 8 3 1 3 2 8 2 5 1 2 4 3 h"]),
   ("osage",
    ["1fhs z 5 z"]),
   ("osmanya",
    ["1fgg t 3 9"]),
   ("pahawhhmong",
    ["1zpc 1x b 9 2 6 2 k 6 i"]),
   ("palmyrene",
    ["1g80 v"]),
   ("paucinhau",
    ["1juo 1k"]),
   ("phagspa",
    ["x8g 1j"]),
   ("phoenician",
    ["1gcg r 4 0"]),
   ("psalterpahlavi",
    ["1gu8 h 8 3 d 6"]),
   ("rejang",
    ["xf4 z c 0"]),
   ("runic",
    ["4gw 22 4 a"]),
   ("samaritan",
    ["1kw 19 3 e"]),
   ("saurashtra",
    ["xa8 1x 9 b"]),
   ("sharada",
    ["1i0w 2n"]),
   ("shavian",
    ["1ff4 1b"]),
   ("siddham",
    ["1itc 1h 3 11"]),
   ("signwriting",
    ["2l8g i3 g 4 2 e"]),
   ("sinhala",
    ["2o1 2 2 h 4 n 2 8 2 0 3 6 4 0 5 5 2 0 2 7 7 9 3 2 1fcd j"]),
   ("sogdian",
    ["1hkg 15"]),
   ("sorasompeng",
    ["1hw0 o 8 9"]),
   ("soyombo",
    ["1jrk 2a"]),
   ("sundanese",
    ["5fk 1r 75 7"]),
   ("sunuwar",
    ["1k1s x f 9"]),
   ("sylotinagri",
    ["x6o 18"]),
   ("syriac",
    ["1ds d 2 1n 3 2 7l a"]),
   ("tagalog",
    ["4jk l a 0"]),
   ("tagbanwa",
    ["4m8 c 2 2 2 1"]),
   ("taile",
    ["500 t 3 4"]),
   ("taitham",
    ["55s 1q 2 s 3 a 7 9 7 d"]),
   ("taiviet",
    ["xog 1u p 4"]),
   ("takri",
    ["1j0g 1l 7 9"]),
   ("tamil",
    ["29u 1 2 5 4 2 2 3 4 1 2 0 2 1 4 1 4 2 4 b 5 4 4 2 2 3 3 0 7 0 f k 1ih2 1d e 0"]),
   ("tangsa",
    ["1zlc 26 2 9"]),
   ("tangut",
    ["20o0 0 w 4qf 9 lb e9 8"]),
   ("telugu",
    ["2dc c 2 2 2 m 2 f 3 8 2 2 2 3 8 1 2 2 3 0 3 3 3 9 8 8"]),
   ("thaana",
    ["1hc 1d"]),
   ("thai",
    ["2rl 1l 6 r"]),
   ("tibetan",
    ["2yo 1z 2 z 5 12 2 z 2 e 2 6 5 1"]),
   ("tifinagh",
    ["8xc 1j 8 1 f 0"]),
   ("tirhuta",
    ["1im8 1z 9 9"]),
   ("todhri",
    ["1fpc 1f"]),
   ("toto",
    ["2nbk u"]),
   ("tulutigalari",
    ["1if4 9 2 0 3 0 2 11 2 9 2 0 3 0 2 3 2 9 2 1 9 1"]),
   ("ugaritic",
    ["1f9c t 2 0"]),
   ("vai",
    ["wlc 8b"]),
   ("vithkuqi",
    ["1fn4 a 2 e 2 6 2 1 2 a 2 e 2 6 2 1"]),
   ("wancho",
    ["2ncw 1l 6 0"]),
   ("warangciti",
    ["1jfk 2a d 0"]),
   ("yezidi",
    ["1hfk 15 2 2 3 1"]),
   ("yi",
    ["vls wc 4 1i"]),
   ("zanabazarsquare",
    ["1jpc 1z"])]

/-- The properties that a character has or has not. -/
def binaryTable : List (String × List String) :=
  [("alphabetic",
    ["1t p 7 p 1c 0 b 0 5 0 6 m 2 u 2 cp 5 b f 4 8 0 2 0 2f 0 u h 2 1 3 3 2 0 7 0 2 2 2 0 2 j 2",
     "2a 2 3u 9 4l 2 11 3 0 7 14 14 d 2 0 2 1 2 1 2 0 9 q 5 3 u a 6 1j 2 6 f 2t 2 7 5 7 5 2 b 2 3",
     "0 h 1b e 2s p w a 1 5 0 6 n 3 i k o 8 a 6 n 2 5 9 0 9 15 b b 4 6 7 23 2 f 2 2 5 e e i 2 7 3",
     "1 3 l 2 6 2 0 4 3 4 7 3 1 3 1 2 0 9 0 5 1 2 4 d 1 b 0 5 2 2 5 5 1 3 l 2 6 2 1 2 1 2 1 5 4 5",
     "1 3 1 5 0 8 3 2 0 i 5 c 2 2 8 2 2 2 l 2 6 2 1 2 4 4 8 2 2 2 1 4 0 g 3 m 3 5 2 2 7 3 1 3 l 2",
     "6 2 1 2 4 4 7 3 1 3 1 a 1 5 1 2 4 e 0 h 1 2 5 4 2 2 3 4 1 2 0 2 1 4 1 4 2 4 b 5 4 4 2 2 2 4",
     "0 7 0 15 c 2 2 2 m 2 f 4 7 2 2 2 2 9 1 2 2 3 0 3 3 t 3 2 7 2 2 2 m 2 9 2 4 4 7 2 2 2 2 9 1",
     "7 1 2 3 e 2 d c 2 2 2 14 3 7 2 2 2 2 2 0 6 3 8 4 n 5 2 2 2 h 4 n 2 8 2 0 3 6 9 5 2 0 2 7 j",
     "1 e 1l 6 6 7 0 1g 1 2 0 2 4 2 n 2 0 2 i 2 2 3 4 2 0 7 0 f 3 x 0 1s 7 2 z 5 i 5 f 2 z 1w 1i",
     "2 0 3 4 h 1r b 3 3 11 2 0 6 0 3 16 2 98 2 3 3 6 2 0 2 3 3 14 2 3 3 w 2 3 3 6 2 0 2 3 3 e 2",
     "1k 2 3 3 1u 12 f h 2d 3 5 4 h7 3 g 2 p 6 22 4 a 8 j c k d j d c 2 2 2 1 d 1f 3 i f 0 5 0 1w",
     "2g 8 16 6 1x b u 2 b 5 8 o t 3 4 c 17 5 p 1j r 5 1q 3 j 1f 0 o 1 c 2 1e 1f 2 e 2 7 1g 15 3",
     "3 b 17 2 a f 1i n 2 b z 3 a 6 16 3 2 16 3 2 5 2 1 4 0 6 5b k x c 7p 3 5 3 11 3 5 3 7 2 0 2",
     "0 2 0 2 u 3 1g 2 6 2 0 4 2 2 6 4 3 3 5 5 c 6 2 2 6 39 0 e 0 h c 2u 0 5 0 3 9 2 0 4 4 7 0 2",
     "0 2 0 2 3 2 a 3 3 6 4 5 0 i 14 mm 1f 1ef 6c 7 3 4 1 d 11 2 0 6 0 3 1j 8 0 h m a 6 2 6 2 6 2",
     "6 2 6 2 6 2 6 2 6 2 v 1c 0 d2 2 q 8 8 4 3 4 5 2d 7 2 2 2h 2 3 6 16 2 2l i v 1d f e9 533 1t",
     "h3g 1w 19 3 7g 4 f b 1 l 1a 6 7 4 34 14 8 3 2u 3 1u 3 1 2 0 2 7 m j 2 w p 1f d 1v 2 0 19 5",
     "4 0 2 2 b w 6 y e s 4 1e 2 b g 0 h f b 4 2 1i a d j m 4 1w 2 0 2 0 p 2 3 f 3 3 c 5 3 5 3 5",
     "a 6 2 6 2 16 2 d 7 3e m 8mb d m 5 1c 6it a5 3 2x 13 6 d 4 6 b 2 c 2 4 2 0 2 1 2 1 2 2z y a2",
     "j 1r 3 1h 15 b 39 4 2 3q 11 p 7 p c 2g 4 5 3 5 3 5 3 2 10 b 2 p 2 i 2 1 2 e 3 d z 3e 1y 1g",
     "7g s 4 1c 1c v e t 6 16 6 t 3 z 5 7 2 4 17 4d j z 5 z 5 13 9 1f d a 2 e 2 6 2 1 2 a 2 e 2 6",
     "2 1 4 1f d 8m a l b 7 p 5 2 15 2 8 1y 5 3 0 2 17 2 1 4 0 3 m b m a u 1u i 2 1 b l b p 1z 1j",
     "7 1 1t 3 2 1 6 7 2 2 2 s 17 s 4 s 10 7 2 r s 1h b l b i e h 33 20 1k 1e e 1e e 13 z r 4 0 6",
     "m 6z 15 2 1 4 1 h 2 1k 0 4 s b 0 9 l 17 h 1b k s m a 1x 18 4 b 1k a 0 e o o 1e i 3 9 y 4 0",
     "a 1r 2 3 a 1 b 0 2 0 10 h 2 x 3 0 7 3 1r 6 2 0 2 3 2 e 2 9 8 1k o 3 2 7 3 1 3 l 2 6 2 1 2 4",
     "4 7 3 1 3 1 4 0 7 0 6 6 t 9 2 0 3 0 2 11 2 9 2 0 3 0 2 3 2 1 4 0 2 0 19 1t 2 2 2 3 l 2 v 1t",
     "3 1 2 0 55 1h 3 6 q 5 z 1q 2 0 4 0 1o 1h 3 0 20 q 3 d m 6 56 1k 2w 1r w 7 3 0 3 7 2 1 2 t 2",
     "1 3 1 3 3 2m 7 3 19 3 5 2 0 2 1 s 1e 3 9 i 1z 6 0 j 20 5k w w 8 2 18 2 6 2 0 1e t 3 l 2 d",
     "22 6 2 1 2 17 4 0 2 1 2 2 2 0 3 1 p 5 2 1 2 10 2 1 2 3 2 0 94 m a g 2 14 4 2 34 0 28 pl 2v",
     "32 i 5f 219 2o g tr i 5 q 32y 6 g6 5a2 1a 1ci fs 8 u i 26 i t j 1b h 3 w k 6 i c1 18 5w 1r",
     "3l 22 5 1k 8 g 1t 1 2 0 d 1 f 4qf 9 yd 16 9 6w8 3 2 6 2 1 2 82 g 0 u 2 3 0 f 3 9 az 1s5 2y",
     "6 c 4 8 8 9 5 0 4ma 2c 2 1y 2 1 3 0 3 1 3 3 2 b 2 0 2 6 2 1s 2 3 3 7 2 6 2 r 2 3 2 4 2 0 4",
     "6 2 9f 3 o 2 o 2 u 2 o 2 u 2 o 2 u 2 o 2 u 2 o 2 7 1f9 u 7 5 5y 6 2 g 3 6 2 1 2 4 6 1p y 0",
     "35 18 b 6 h 0 8y t j 17 dh r 6d t 3 0 ds 6 2 3 2 1 2 e 2 5g 1o 1v 4 0 4 0 xh 3 2 q 2 1 2 0",
     "3 0 2 9 2 3 2 0 2 0 7 0 5 0 2 0 2 0 2 2 2 1 2 0 3 0 2 0 2 0 2 0 2 0 2 1 2 0 3 3 2 6 2 3 2 3",
     "2 0 2 9 2 g 6 2 2 4 2 g hh p 7 p 7 p 2uv wyn x 37d 7 65 3 4g1 f 5rk g h9 1wj f1 15v 3t6 6",
     "38f"]),
   ("lowercase",
    ["2p p 1c 0 b 0 5 0 11 n 2 7 2 0 2 0 2 0 2 0 2 0 2 0 2 0 2 0 2 0 2 0 2 0 2 0 2 0 2 0 2 0 2 0",
     "2 0 2 0 2 0 2 0 2 0 2 0 2 0 2 0 2 0 2 0 2 0 2 1 2 0 2 0 2 0 2 0 2 0 2 0 2 0 2 1 2 0 2 0 2 0",
     "2 0 2 0 2 0 2 0 2 0 2 0 2 0 2 0 2 0 2 0 2 0 2 0 2 0 2 0 2 0 2 0 2 0 2 0 2 0 2 0 3 0 2 0 2 2",
     "3 0 2 0 3 0 4 1 5 0 3 0 4 2 3 0 3 0 2 0 2 0 3 0 2 1 2 0 3 0 4 0 2 0 3 1 3 2 7 0 3 0 3 0 2 0",
     "2 0 2 0 2 0 2 0 2 0 2 0 2 1 2 0 2 0 2 0 2 0 2 0 2 0 2 0 2 0 2 1 3 0 2 0 4 0 2 0 2 0 2 0 2 0",
     "2 0 2 0 2 0 2 0 2 0 2 0 2 0 2 0 2 0 2 0 2 0 2 0 2 0 2 0 2 0 2 0 2 0 2 0 2 0 2 0 2 0 2 0 2 0",
     "2 0 2 6 3 0 3 1 2 0 5 0 2 0 2 0 2 0 2 1w 3 y 8 1 v 4 2p 0 18 0 2 0 4 0 3 3 j 0 s y 2 1 4 2",
     "2 0 2 0 2 0 2 0 2 0 2 0 2 0 2 0 2 0 2 0 2 0 2 4 2 0 3 0 3 1 1g 1b 2 0 2 0 2 0 2 0 2 0 2 0 2",
     "0 2 0 2 0 2 0 2 0 2 0 2 0 2 0 2 0 2 0 2 0 a 0 2 0 2 0 2 0 2 0 2 0 2 0 2 0 2 0 2 0 2 0 2 0 2",
     "0 2 0 2 0 2 0 2 0 2 0 2 0 2 0 2 0 2 0 2 0 2 0 2 0 2 0 2 0 3 0 2 0 2 0 2 0 2 0 2 0 2 1 2 0 2",
     "0 2 0 2 0 2 0 2 0 2 0 2 0 2 0 2 0 2 0 2 0 2 0 2 0 2 0 2 0 2 0 2 0 2 0 2 0 2 0 2 0 2 0 2 0 2",
     "0 2 0 2 0 2 0 2 0 2 0 2 0 2 0 2 0 2 0 2 0 2 0 2 0 2 0 2 0 2 0 2 0 2 0 2 0 2 0 2 0 2 0 2 0 2",
     "0 1d 14 288 16 2 3 l5 5 1oj 8 2 0 3a 5b 1u 0 2 0 2 0 2 0 2 0 2 0 2 0 2 0 2 0 2 0 2 0 2 0 2",
     "0 2 0 2 0 2 0 2 0 2 0 2 0 2 0 2 0 2 0 2 0 2 0 2 0 2 0 2 0 2 0 2 0 2 0 2 0 2 0 2 0 2 0 2 0 2",
     "0 2 0 2 0 2 0 2 0 2 0 2 0 2 0 2 0 2 0 2 0 2 0 2 0 2 0 2 0 2 0 2 0 2 0 2 0 2 0 2 0 2 0 2 0 2",
     "0 2 0 2 0 2 0 2 0 2 0 2 0 2 0 2 0 2 0 2 0 2 0 2 0 2 0 2 0 2 0 2 8 2 0 2 0 2 0 2 0 2 0 2 0 2",
     "0 2 0 2 0 2 0 2 0 2 0 2 0 2 0 2 0 2 0 2 0 2 0 2 0 2 0 2 0 2 0 2 0 2 0 2 0 2 0 2 0 2 0 2 0 2",
     "0 2 0 2 0 2 0 2 0 2 0 2 0 2 0 2 0 2 0 2 0 2 0 2 0 2 0 2 0 2 0 2 0 2 0 2 0 2 8 9 5 b 7 9 7 9",
     "5 b 7 9 7 9 d 3 7 9 7 9 7 9 4 2 1 7 0 4 2 2 1 9 3 3 1 9 7 b 2 2 1 3e 0 e 0 h c 32 0 4 1 4 0",
     "s 0 5 0 5 0 3 1 9 3 5 0 y f 5 0 ng p 1fr 1b 2 0 4 1 2 0 2 0 2 0 5 0 2 1 2 7 4 0 2 0 2 0 2 0",
     "2 0 2 0 2 0 2 0 2 0 2 0 2 0 2 0 2 0 2 0 2 0 2 0 2 0 2 0 2 0 2 0 2 0 2 0 2 0 2 0 2 0 2 0 2 0",
     "2 0 2 0 2 0 2 0 2 0 2 0 2 0 2 0 2 0 2 0 2 0 2 0 2 0 2 0 2 0 2 0 2 0 2 0 2 0 2 0 2 0 2 0 2 1",
     "8 0 2 0 5 0 d 11 2 0 6 0 nx0 0 2 0 2 0 2 0 2 0 2 0 2 0 2 0 2 0 2 0 2 0 2 0 2 0 2 0 2 0 2 0",
     "2 0 2 0 2 0 2 0 2 0 2 0 2 0 k 0 2 0 2 0 2 0 2 0 2 0 2 0 2 0 2 0 2 0 2 0 2 0 2 0 2 2 3q 0 2",
     "0 2 0 2 0 2 0 2 0 2 2 2 0 2 0 2 0 2 0 2 0 2 0 2 0 2 0 2 0 2 0 2 0 2 0 2 0 2 0 2 0 2 0 2 0 2",
     "0 2 0 2 0 2 0 2 0 2 0 2 0 2 0 2 0 2 0 2 0 2 0 2 0 2 9 2 0 2 0 3 0 2 0 2 0 2 0 2 0 5 0 2 0 3",
     "0 2 2 2 0 2 0 2 0 2 0 2 0 2 0 2 0 2 0 2 0 2 0 6 0 6 0 2 0 2 0 2 0 2 0 2 0 2 0 2 0 5 0 2 0 3",
     "0 4 0 2 0 2 0 2 0 2 0 2 0 n 2 2 0 2 2 mu 16 2 d 7 27 fnl 6 d 4 tm p y6 13 3t z 4c a 2 e 2 6",
     "2 1 ck 0 3 2 2 15 2 8 zq 1e 3i l 27v v gw1 v k2j p r 6 2 h r p r 3 2 0 2 6 2 a r p r p r p",
     "r p r p r p r p r p r r t o 2 5 r o 2 5 r o 2 5 r o 2 5 r o 2 5 2 0 1f9 9 2 j 7 5 7a 1p 1px",
     "x"]),
   ("uppercase",
    ["1t p 2u m 2 6 y 0 2 0 2 0 2 0 2 0 2 0 2 0 2 0 2 0 2 0 2 0 2 0 2 0 2 0 2 0 2 0 2 0 2 0 2 0 2",
     "0 2 0 2 0 2 0 2 0 2 0 2 0 2 0 2 0 3 0 2 0 2 0 2 0 2 0 2 0 2 0 2 0 3 0 2 0 2 0 2 0 2 0 2 0 2",
     "0 2 0 2 0 2 0 2 0 2 0 2 0 2 0 2 0 2 0 2 0 2 0 2 0 2 0 2 0 2 0 2 0 2 1 2 0 2 0 4 1 2 0 2 1 2",
     "2 3 3 2 1 2 2 4 1 2 1 2 0 2 0 2 1 2 0 3 0 2 1 2 2 2 0 2 1 4 0 8 0 3 0 3 0 3 0 2 0 2 0 2 0 2",
     "0 2 0 2 0 2 0 3 0 2 0 2 0 2 0 2 0 2 0 2 0 2 0 2 0 3 0 3 0 2 2 2 0 2 0 2 0 2 0 2 0 2 0 2 0 2",
     "0 2 0 2 0 2 0 2 0 2 0 2 0 2 0 2 0 2 0 2 0 2 0 2 0 2 0 2 0 2 0 2 0 2 0 2 0 2 0 2 0 2 0 8 1 2",
     "1 3 0 2 3 2 0 2 0 2 0 2 0 82 0 2 0 4 0 9 0 7 0 2 2 2 0 2 1 2 g 2 8 10 0 3 2 4 0 2 0 2 0 2 0",
     "2 0 2 0 2 0 2 0 2 0 2 0 2 0 2 0 6 0 3 0 2 1 3 1e 1d 0 2 0 2 0 2 0 2 0 2 0 2 0 2 0 2 0 2 0 2",
     "0 2 0 2 0 2 0 2 0 2 0 2 0 a 0 2 0 2 0 2 0 2 0 2 0 2 0 2 0 2 0 2 0 2 0 2 0 2 0 2 0 2 0 2 0 2",
     "0 2 0 2 0 2 0 2 0 2 0 2 0 2 0 2 0 2 0 2 0 2 1 2 0 2 0 2 0 2 0 2 0 2 0 3 0 2 0 2 0 2 0 2 0 2",
     "0 2 0 2 0 2 0 2 0 2 0 2 0 2 0 2 0 2 0 2 0 2 0 2 0 2 0 2 0 2 0 2 0 2 0 2 0 2 0 2 0 2 0 2 0 2",
     "0 2 0 2 0 2 0 2 0 2 0 2 0 2 0 2 0 2 0 2 0 2 0 2 0 2 0 2 0 2 0 2 0 2 0 2 0 2 0 3 11 28a 11 2",
     "0 6 0 k3 2d 1p0 0 7 16 3 2 8x 0 2 0 2 0 2 0 2 0 2 0 2 0 2 0 2 0 2 0 2 0 2 0 2 0 2 0 2 0 2 0",
     "2 0 2 0 2 0 2 0 2 0 2 0 2 0 2 0 2 0 2 0 2 0 2 0 2 0 2 0 2 0 2 0 2 0 2 0 2 0 2 0 2 0 2 0 2 0",
     "2 0 2 0 2 0 2 0 2 0 2 0 2 0 2 0 2 0 2 0 2 0 2 0 2 0 2 0 2 0 2 0 2 0 2 0 2 0 2 0 2 0 2 0 2 0",
     "2 0 2 0 2 0 2 0 2 0 2 0 2 0 2 0 2 0 2 0 2 0 2 0 2 0 a 0 2 0 2 0 2 0 2 0 2 0 2 0 2 0 2 0 2 0",
     "2 0 2 0 2 0 2 0 2 0 2 0 2 0 2 0 2 0 2 0 2 0 2 0 2 0 2 0 2 0 2 0 2 0 2 0 2 0 2 0 2 0 2 0 2 0",
     "2 0 2 0 2 0 2 0 2 0 2 0 2 0 2 0 2 0 2 0 2 0 2 0 2 0 2 0 2 0 2 0 a 7 9 5 b 7 9 7 9 5 c 0 2 0",
     "2 0 2 0 9 7 21 3 d 3 d 3 d 4 c 3 7b 0 5 0 4 2 3 2 3 0 4 4 7 0 2 0 2 0 2 3 3 3 b 1 6 0 r f k",
     "0 mr p 1f5 1b 1d 0 2 2 3 0 2 0 2 0 2 3 2 0 3 0 9 2 2 0 2 0 2 0 2 0 2 0 2 0 2 0 2 0 2 0 2 0",
     "2 0 2 0 2 0 2 0 2 0 2 0 2 0 2 0 2 0 2 0 2 0 2 0 2 0 2 0 2 0 2 0 2 0 2 0 2 0 2 0 2 0 2 0 2 0",
     "2 0 2 0 2 0 2 0 2 0 2 0 2 0 2 0 2 0 2 0 2 0 2 0 2 0 2 0 2 0 2 0 9 0 2 0 5 0 nym 0 2 0 2 0 2",
     "0 2 0 2 0 2 0 2 0 2 0 2 0 2 0 2 0 2 0 2 0 2 0 2 0 2 0 2 0 2 0 2 0 2 0 2 0 2 0 k 0 2 0 2 0 2",
     "0 2 0 2 0 2 0 2 0 2 0 2 0 2 0 2 0 2 0 2 0 3s 0 2 0 2 0 2 0 2 0 2 0 2 0 4 0 2 0 2 0 2 0 2 0",
     "2 0 2 0 2 0 2 0 2 0 2 0 2 0 2 0 2 0 2 0 2 0 2 0 2 0 2 0 2 0 2 0 2 0 2 0 2 0 2 0 2 0 2 0 2 0",
     "2 0 2 0 2 0 b 0 2 0 2 1 2 0 2 0 2 0 2 0 5 0 2 0 3 0 2 0 4 0 2 0 2 0 2 0 2 0 2 0 2 0 2 0 2 0",
     "2 0 2 4 2 4 2 0 2 0 2 0 2 0 2 0 2 0 2 0 2 3 2 0 2 1 4 0 6 0 2 0 2 0 2 0 p 0 h7w p xy 13 3t",
     "z 4d a 2 e 2 6 2 1 1d7 1e 4e l 27v v gw1 v k2p p r p r p r 0 2 1 3 0 3 1 3 3 2 7 r p r 1 2",
     "3 3 7 2 6 s 1 2 3 2 4 2 0 4 6 s p r p r p r p r p r p v o y o y o y o y o y 0 3ee x 1lb p 7",
     "p 7 p"]),
   ("whitespace",
    ["9 4 j 0 2t 0 r 0 4bk 0 1vk a u 1 6 0 1c 0 335 0"]),
   ("math",
    ["17 0 h 2 w 0 u 0 2 0 1a 0 5 0 12 0 w 0 k9 2 3 0 r 1 3 2 eo 2 55a 0 s 2 c 0 4 0 e 0 f 3 m 4",
     "c 4 1u c 5 0 4 1 5 4 j 0 5 0 3 9 2 0 3 5 7 0 4 1 3 1 2 2 2 5 4 d 2 0 1x n 2 5 2 1 5 1 5 v 2",
     "0 7 1 f 7f 9 3 l 1 2j 0 v q 2 0 p 0 c 6 ce 1 d 9 5 5 5 1 3 1 4 4 f 0 2 0 3 5 c 7 6 1 1m 0 2",
     "0 u 3 a 2 9d 1r 75 e7 1d k 3 5 1525 0 mw 5 2 0 4j 0 h 2 u 0 2 0 u 0 2 0 3o 0 7 3 2oy 1 1375",
     "2c 2 1y 2 1 3 0 3 1 3 3 2 b 2 0 2 6 2 1s 2 3 3 7 2 6 2 r 2 3 2 4 2 0 4 6 2 9f 3 83 3 1d 4ch",
     "3 2 q 2 1 2 0 3 0 2 9 2 3 2 0 2 0 7 0 5 0 2 0 2 0 2 2 2 1 2 0 3 0 2 0 2 0 2 0 2 0 2 1 2 0 3",
     "3 2 6 2 3 2 3 2 0 2 9 2 g 6 2 2 4 2 g 1h 1"]),
   ("hexdigit",
    ["1c 9 8 5 r 5 1eay 9 8 5 r 5"]),
   ("asciihexdigit",
    ["1c 9 8 5 r 5"]),
   ("idstart",
    ["1t p 7 p 1c 0 b 0 5 0 6 m 2 u 2 cp 5 b f 4 8 0 2 0 3m 4 2 1 3 3 2 0 7 0 2 2 2 0 2 j 2 2a 2",
     "3u 9 4l 2 11 3 0 7 14 20 q 5 3 1a 16 10 1 2 2q 2 0 g 1 8 1 b 2 3 0 h 0 2 t u 2g c 0 p w a 1",
     "5 0 6 l 5 0 a 0 4 0 o o 8 a 6 n 2 5 i 15 1n 1h 4 0 j 0 8 9 g f 5 7 3 1 3 l 2 6 2 0 4 3 4 0",
     "h 0 e 1 2 2 f 1 b 0 9 5 5 1 3 l 2 6 2 1 2 1 2 1 w 3 2 0 k 2 h 8 2 2 2 l 2 6 2 1 2 4 4 0 j 0",
     "g 1 o 0 c 7 3 1 3 l 2 6 2 1 2 4 4 0 v 1 2 2 g 0 i 0 2 5 4 2 2 3 4 1 2 0 2 1 4 1 4 2 4 b n 0",
     "1h 7 2 2 2 m 2 f 4 0 r 2 3 0 3 1 v 0 5 7 2 2 2 m 2 9 2 4 4 0 w 1 2 1 g 1 i 8 2 2 2 14 3 0 h",
     "0 6 2 9 2 p 5 6 h 4 n 2 8 2 0 3 6 1n 1b 2 1 d 6 1n 1 2 0 2 4 2 n 2 0 2 9 2 1 a 0 3 4 2 0 m",
     "3 x 0 1s 7 2 z s 4 38 16 l 0 h 5 5 3 4 0 4 1 8 2 5 c d 0 i 11 2 0 6 0 3 16 2 98 2 3 3 6 2 0",
     "2 3 3 14 2 3 3 w 2 3 3 6 2 0 2 3 3 e 2 1k 2 3 3 1u 12 f h 2d 3 5 4 h7 3 g 2 p 6 22 4 a 8 h",
     "e i f h f c 2 2 g 1f 10 0 5 0 1w 2g 8 14 2 0 6 1x b u 1e t 3 4 c 17 5 p 1j m a 1g 2b 0 2m",
     "1a i 7 1j t e 1 b 17 r z 16 2 b z 3 a 6 16 3 2 16 3 2 5 2 1 4 0 6 5b 1t 7p 3 5 3 11 3 5 3 7",
     "2 0 2 0 2 0 2 u 3 1g 2 6 2 0 4 2 2 6 4 3 3 5 5 c 6 2 2 6 39 0 e 0 h c 2u 0 5 0 3 9 2 0 3 5",
     "7 0 2 0 2 0 2 f 3 3 6 4 5 0 i 14 22g 6c 7 3 4 1 d 11 2 0 6 0 3 1j 8 0 h m a 6 2 6 2 6 2 6 2",
     "6 2 6 2 6 2 6 fb 2 q 8 8 4 3 4 5 2d 5 4 2 2h 2 3 6 16 2 2l i v 1d f e9 533 1t h3g 1w 19 3",
     "7g 4 f b 1 l 1a h u 3 27 14 8 3 2u 3 1u 3 1 2 0 2 7 m f 2 2 2 3 2 m u 1f f 1d 1r 5 4 0 2 1",
     "c r b m q s 8 1a t 0 h 4 2 9 b 4 2 14 o 2 2 7 l m 4 0 4 1d 2 0 4 1 3 4 3 0 2 0 p 2 3 a 8 2",
     "d 5 3 5 3 5 a 6 2 6 2 16 2 d 7 36 u 8mb d m 5 1c 6it a5 3 2x 13 6 d 4 6 0 2 9 2 c 2 4 2 0 2",
     "1 2 1 2 2z y a2 j 1r 3 1h 15 b 39 4 2 3q 11 p 7 p c 2g 4 5 3 5 3 5 3 2 10 b 2 p 2 i 2 1 2 e",
     "3 d z 3e 1y 1g 7g s 4 1c 1c v e t 6 11 b t 3 z 5 7 2 4 17 4d j z 5 z 5 13 9 1f d a 2 e 2 6",
     "2 1 2 a 2 e 2 6 2 1 4 1f d 8m a l b 7 p 5 2 15 2 8 1y 5 3 0 2 17 2 1 4 0 3 m b m a u 1u i 2",
     "1 b l b p 1z 1j 7 1 1t 0 g 3 2 2 2 s 17 s 4 s 10 7 2 r s 1h b l b i e h 33 20 1k 1e e 1e e",
     "z 13 r a m 6z 15 7 1 h 2 1o s b 0 9 l 17 h 1b k s m d 1g 1m 1 3 0 e 18 x o r z u 0 3 0 9 y",
     "4 0 d 1b f 3 m 0 2 0 10 h 2 o k 1 1s 6 2 0 2 3 2 e 2 9 8 1a 13 7 3 1 3 l 2 6 2 1 2 4 4 0 j",
     "0 d 4 v 9 2 0 3 0 2 11 2 0 q 0 2 0 19 1g j 3 l 2 v 1b l 1 2 0 55 1a 16 3 11 1b l 0 1o 16 e",
     "0 20 q 12 6 56 17 39 1r w 7 3 0 3 7 2 1 2 n g 0 2 0 2n 7 3 12 h 0 2 0 t 0 b 13 8 0 m 0 c 19",
     "k 0 j 20 5k w w 8 2 10 i 0 1e t 35 6 2 1 2 11 m 0 q 5 2 1 2 v f 0 94 i g 0 2 c 2 x 3h 0 28",
     "pl 2v 32 i 5f 219 2o g tr i 5 q 32y 6 g6 5a2 t 1cz fs 8 u i 26 i t j 1b h 3 w k 6 i c1 18",
     "5w 1r 3l 22 6 0 1v c 1t 1 2 0 t 4qf 9 yd 16 9 6w8 3 2 6 2 1 2 82 g 0 u 2 3 0 f 3 9 az 1s5",
     "2y 6 c 4 8 8 9 4mf 2c 2 1y 2 1 3 0 3 1 3 3 2 b 2 0 2 6 2 1s 2 3 3 7 2 6 2 r 2 3 2 4 2 0 4 6",
     "2 9f 3 o 2 o 2 u 2 o 2 u 2 o 2 u 2 o 2 u 2 o 2 7 1f9 u 7 5 7a 1p 43 18 b 6 h 0 8y t j 17 dh",
     "r 6d t 3 0 ds 6 2 3 2 1 2 e 2 5g 1o 1v 8 0 xh 3 2 q 2 1 2 0 3 0 2 9 2 3 2 0 2 0 7 0 5 0 2 0",
     "2 0 2 2 2 1 2 0 3 0 2 0 2 0 2 0 2 0 2 1 2 0 3 3 2 6 2 3 2 3 2 0 2 9 2 g 6 2 2 4 2 g 3et wyn",
     "x 37d 7 65 3 4g1 f 5rk g h9 1wj f1 15v 3t6 6 38f"]),
   ("idcontinue",
    ["1c 9 8 p 5 0 2 p 1c 0 b 0 2 0 3 0 6 m 2 u 2 cp 5 b f 4 8 0 2 0 i 38 2 1 3 3 2 0 7 4 2 0 2 j",
     "2 2a 2 3u 2 4 3 4l 2 11 3 0 7 14 9 18 2 0 2 1 2 1 2 0 9 q 5 3 u a 6 21 5 2t 2 7 3 9 2 i 3 0",
     "h 1m 3 2s f 1h 5 0 3 0 3 19 j r 5 a 6 n 2 5 9 22 2 3k 3 9 2 i 2 7 3 1 3 l 2 6 2 0 4 3 3 8 3",
     "1 3 3 9 0 5 1 2 4 3 b b 0 2 0 3 2 2 5 5 1 3 l 2 6 2 1 2 1 2 1 3 0 2 4 5 1 3 2 4 0 8 3 2 0 8",
     "f c 2 2 8 2 2 2 l 2 6 2 1 2 4 3 9 2 2 2 2 3 0 g 3 3 9 a 6 2 2 2 7 3 1 3 l 2 6 2 1 2 4 3 8 3",
     "1 3 2 8 2 5 1 2 4 3 9 2 0 h 1 2 5 4 2 2 3 4 1 2 0 2 1 4 1 4 2 4 b 5 4 4 2 2 3 3 0 7 0 f 9 h",
     "c 2 2 2 m 2 f 3 8 2 2 2 3 8 1 2 2 3 0 3 3 3 9 h 3 2 7 2 2 2 m 2 9 2 4 3 8 2 2 2 3 8 1 7 1 2",
     "3 3 9 2 2 d c 2 2 2 1e 2 2 2 4 6 3 8 4 3 9 b 5 2 2 2 h 4 n 2 8 2 0 3 6 4 0 5 5 2 0 2 7 7 9",
     "3 1 e 1l 6 e 2 9 14 1 2 0 2 4 2 n 2 0 2 m 3 4 2 0 2 6 2 9 3 3 x 0 o 1 7 9 c 0 2 0 2 0 5 9 2",
     "z 5 j 2 h 2 z a 0 1m 21 7 25 3 11 2 0 6 0 3 16 2 98 2 3 3 6 2 0 2 3 3 14 2 3 3 w 2 3 3 6 2",
     "0 2 3 3 e 2 1k 2 3 3 1u 3 2 a 8 f f h 2d 3 5 4 h7 3 g 2 p 6 22 4 a 8 l a l c j d c 2 2 2 1",
     "d 2b 4 0 5 1 3 9 y 2 2 a 7 2g 8 16 6 1x b u 2 b 5 b b 13 3 4 c 17 5 p 7 a 12 r 5 1q 2 s 3 a",
     "7 9 e 0 9 d 2 f 1e 24 4 9 i 8 d 37 d 1j 9 9 4 1c 3 a 6 16 3 2 h 2 2 12 6 et 3 5 3 11 3 5 3",
     "7 2 0 2 0 2 0 2 u 3 1g 2 6 2 0 4 2 2 6 4 3 3 5 5 c 6 2 2 6 g 1 1e 1 k 0 t 0 e 0 h c 1g c 5",
     "0 4 b i 0 5 0 3 9 2 0 3 5 7 0 2 0 2 0 2 f 3 3 6 4 5 0 i 14 22g 6c 7 8 d 11 2 0 6 0 3 1j 8 0",
     "g n a 6 2 6 2 6 2 6 2 6 2 6 2 6 2 6 2 v ee 2 q e 2 4 3 4 5 2d 3 6 2 2m 6 16 2 2l i v 1d f",
     "e9 533 1t h3g 1w 19 3 7g 4 r l 1b 5 9 2 36 12 8 3 2u 3 1u 3 1 2 0 2 7 m 1h 5 0 k 1f d 1x b",
     "9 7 n 4 0 2 1c 3 z d s 4 1s f a 7 u 2 1i a d 3 9 7 m 4 20 p 2 3 f 3 4 b 5 3 5 3 5 a 6 2 6 2",
     "16 2 d 7 3e 2 1 3 9 7 8mb d m 5 1c 6it a5 3 2x 13 6 d 4 6 b 2 c 2 4 2 0 2 1 2 1 2 2z y a2 j",
     "1r 3 1h 15 b 5 f h f 4 1 p 2 x 4 2 3q k 9 8 p 5 0 2 p b 2h 4 5 3 5 3 5 3 2 10 b 2 p 2 i 2 1",
     "2 e 3 d z 3e 1y 1g 3t 0 3n s 4 1c g 0 w v e t 6 16 6 t 3 z 5 7 2 4 17 4d 3 9 7 z 5 z 5 13 9",
     "1f d a 2 e 2 6 2 1 2 a 2 e 2 6 2 1 4 1f d 8m a l b 7 p 5 2 15 2 8 1y 5 3 0 2 17 2 1 4 0 3 m",
     "b m a u 1u i 2 1 b l b p 1z 1j 7 1 1t 3 2 1 6 7 2 2 2 s 3 2 5 0 x s 4 s 10 7 2 t q 1h b l b",
     "i e h 33 20 1k 1e e 1e e 13 9 9 7 11 4 4 2 m 6z 15 2 1 4 1 h 2 1k w b 0 9 w w l 17 k s m a",
     "1y w f a 1n 8 0 e o 8 9 7 1g 2 9 5 3 9 z 3 0 a 1w 5 3 2 c 2 0 10 h 2 10 7 3 1r 6 2 0 2 3 2",
     "e 2 9 8 1m 6 9 7 3 2 7 3 1 3 l 2 6 2 1 2 4 2 9 3 1 3 2 3 0 7 0 6 6 3 6 4 4 c 9 2 0 3 0 2 11",
     "2 9 2 0 3 0 2 3 2 7 e 1 u 22 6 9 5 3 v 1x 2 0 9 9 4n 1h 3 8 o 5 z 1s 4 0 c 9 13 1k 8 9 7 j",
     "t q 3 e 5 9 7 6 56 1m 2u 21 m 7 3 0 3 7 2 1 2 t 2 1 3 8 d 9 1z 7 3 19 3 7 2 1 s 1q 9 0 9 21",
     "4 0 j 20 5k w g 9 7 8 2 18 2 8 g 9 p t 3 l 2 d 22 6 2 1 2 17 4 0 2 1 2 8 9 9 7 5 2 1 2 10 2",
     "1 2 5 8 9 8n m a g 2 14 4 4 e a 2e 0 28 pl 2v 32 i 5f 219 2o g tr h l b 32y 6 g6 5a2 1l 1c7",
     "fs 8 u 2 9 7 26 2 9 7 t 3 4 c 1i a 3 d 9 a k 6 i c1 18 4 9 5j 1r 3l 22 5 1k 8 g 1t 1 2 1 c",
     "1 f 4qf 9 yd 16 9 6w8 3 2 6 2 1 2 82 g 0 u 2 3 0 f 3 9 az 1s5 2y 6 c 4 8 8 9 4 1 382 9 ef",
     "19 3 m f3 4 4 5 9 7 3 6 v 3 45 2 cc 2c 2 1y 2 1 3 0 3 1 3 3 2 b 2 0 2 6 2 1s 2 3 3 7 2 6 2",
     "r 2 3 2 4 2 0 4 6 2 9f 3 o 2 o 2 u 2 o 2 u 2 o 2 u 2 o 2 u 2 o 2 7 3 1d e9 1i 5 1d 9 0 f 0",
     "n 4 2 e up u 7 5 5y 6 2 g 3 6 2 1 2 4 6 1p y 0 35 18 4 d 3 9 5 0 8y u i 1l d3 15 5z 16 di 6",
     "2 3 2 1 2 e 2 5g c 6 16 23 5 9 x3 3 2 q 2 1 2 0 3 0 2 9 2 3 2 0 2 0 7 0 5 0 2 0 2 0 2 2 2 1",
     "2 0 3 0 2 0 2 0 2 0 2 0 2 1 2 0 3 3 2 6 2 3 2 3 2 0 2 9 2 g 6 2 2 4 2 g 2lx 9 sn wyn x 37d",
     "7 65 3 4g1 f 5rk g h9 1wj f1 15v 3t6 6 38f f9e9 6n"]),
   ("xidstart",
    ["1t p 7 p 1c 0 b 0 5 0 6 m 2 u 2 cp 5 b f 4 8 0 2 0 3m 4 2 1 4 2 2 0 7 0 2 2 2 0 2 j 2 2a 2",
     "3u 9 4l 2 11 3 0 7 14 20 q 5 3 1a 16 10 1 2 2q 2 0 g 1 8 1 b 2 3 0 h 0 2 t u 2g c 0 p w a 1",
     "5 0 6 l 5 0 a 0 4 0 o o 8 a 6 n 2 5 i 15 1n 1h 4 0 j 0 8 9 g f 5 7 3 1 3 l 2 6 2 0 4 3 4 0",
     "h 0 e 1 2 2 f 1 b 0 9 5 5 1 3 l 2 6 2 1 2 1 2 1 w 3 2 0 k 2 h 8 2 2 2 l 2 6 2 1 2 4 4 0 j 0",
     "g 1 o 0 c 7 3 1 3 l 2 6 2 1 2 4 4 0 v 1 2 2 g 0 i 0 2 5 4 2 2 3 4 1 2 0 2 1 4 1 4 2 4 b n 0",
     "1h 7 2 2 2 m 2 f 4 0 r 2 3 0 3 1 v 0 5 7 2 2 2 m 2 9 2 4 4 0 w 1 2 1 g 1 i 8 2 2 2 14 3 0 h",
     "0 6 2 9 2 p 5 6 h 4 n 2 8 2 0 3 6 1n 1b 2 0 e 6 1n 1 2 0 2 4 2 n 2 0 2 9 2 0 b 0 3 4 2 0 m",
     "3 x 0 1s 7 2 z s 4 38 16 l 0 h 5 5 3 4 0 4 1 8 2 5 c d 0 i 11 2 0 6 0 3 16 2 98 2 3 3 6 2 0",
     "2 3 3 14 2 3 3 w 2 3 3 6 2 0 2 3 3 e 2 1k 2 3 3 1u 12 f h 2d 3 5 4 h7 3 g 2 p 6 22 4 a 8 h",
     "e i f h f c 2 2 g 1f 10 0 5 0 1w 2g 8 14 2 0 6 1x b u 1e t 3 4 c 17 5 p 1j m a 1g 2b 0 2m",
     "1a i 7 1j t e 1 b 17 r z 16 2 b z 3 a 6 16 3 2 16 3 2 5 2 1 4 0 6 5b 1t 7p 3 5 3 11 3 5 3 7",
     "2 0 2 0 2 0 2 u 3 1g 2 6 2 0 4 2 2 6 4 3 3 5 5 c 6 2 2 6 39 0 e 0 h c 2u 0 5 0 3 9 2 0 3 5",
     "7 0 2 0 2 0 2 f 3 3 6 4 5 0 i 14 22g 6c 7 3 4 1 d 11 2 0 6 0 3 1j 8 0 h m a 6 2 6 2 6 2 6 2",
     "6 2 6 2 6 2 6 fb 2 q 8 8 4 3 4 5 2d 7 2 2 2h 2 3 6 16 2 2l i v 1d f e9 533 1t h3g 1w 19 3",
     "7g 4 f b 1 l 1a h u 3 27 14 8 3 2u 3 1u 3 1 2 0 2 7 m f 2 2 2 3 2 m u 1f f 1d 1r 5 4 0 2 1",
     "c r b m q s 8 1a t 0 h 4 2 9 b 4 2 14 o 2 2 7 l m 4 0 4 1d 2 0 4 1 3 4 3 0 2 0 p 2 3 a 8 2",
     "d 5 3 5 3 5 a 6 2 6 2 16 2 d 7 36 u 8mb d m 5 1c 6it a5 3 2x 13 6 d 4 6 0 2 9 2 c 2 4 2 0 2",
     "1 2 1 2 2z y 3u 7 61 j 1r 3 1h 15 9 3c 0 2 0 4 0 2 0 2 0 2 0 2 3h 11 p 7 p c 1j 3 u 4 5 3 5",
     "3 5 3 2 10 b 2 p 2 i 2 1 2 e 3 d z 3e 1y 1g 7g s 4 1c 1c v e t 6 11 b t 3 z 5 7 2 4 17 4d j",
     "z 5 z 5 13 9 1f d a 2 e 2 6 2 1 2 a 2 e 2 6 2 1 4 1f d 8m a l b 7 p 5 2 15 2 8 1y 5 3 0 2",
     "17 2 1 4 0 3 m b m a u 1u i 2 1 b l b p 1z 1j 7 1 1t 0 g 3 2 2 2 s 17 s 4 s 10 7 2 r s 1h b",
     "l b i e h 33 20 1k 1e e 1e e z 13 r a m 6z 15 7 1 h 2 1o s b 0 9 l 17 h 1b k s m d 1g 1m 1",
     "3 0 e 18 x o r z u 0 3 0 9 y 4 0 d 1b f 3 m 0 2 0 10 h 2 o k 1 1s 6 2 0 2 3 2 e 2 9 8 1a 13",
     "7 3 1 3 l 2 6 2 1 2 4 4 0 j 0 d 4 v 9 2 0 3 0 2 11 2 0 q 0 2 0 19 1g j 3 l 2 v 1b l 1 2 0",
     "55 1a 16 3 11 1b l 0 1o 16 e 0 20 q 12 6 56 17 39 1r w 7 3 0 3 7 2 1 2 n g 0 2 0 2n 7 3 12",
     "h 0 2 0 t 0 b 13 8 0 m 0 c 19 k 0 j 20 5k w w 8 2 10 i 0 1e t 35 6 2 1 2 11 m 0 q 5 2 1 2 v",
     "f 0 94 i g 0 2 c 2 x 3h 0 28 pl 2v 32 i 5f 219 2o g tr i 5 q 32y 6 g6 5a2 t 1cz fs 8 u i 26",
     "i t j 1b h 3 w k 6 i c1 18 5w 1r 3l 22 6 0 1v c 1t 1 2 0 t 4qf 9 yd 16 9 6w8 3 2 6 2 1 2 82",
     "g 0 u 2 3 0 f 3 9 az 1s5 2y 6 c 4 8 8 9 4mf 2c 2 1y 2 1 3 0 3 1 3 3 2 b 2 0 2 6 2 1s 2 3 3",
     "7 2 6 2 r 2 3 2 4 2 0 4 6 2 9f 3 o 2 o 2 u 2 o 2 u 2 o 2 u 2 o 2 u 2 o 2 7 1f9 u 7 5 7a 1p",
     "43 18 b 6 h 0 8y t j 17 dh r 6d t 3 0 ds 6 2 3 2 1 2 e 2 5g 1o 1v 8 0 xh 3 2 q 2 1 2 0 3 0",
     "2 9 2 3 2 0 2 0 7 0 5 0 2 0 2 0 2 2 2 1 2 0 3 0 2 0 2 0 2 0 2 0 2 1 2 0 3 3 2 6 2 3 2 3 2 0",
     "2 9 2 g 6 2 2 4 2 g 3et wyn x 37d 7 65 3 4g1 f 5rk g h9 1wj f1 15v 3t6 6 38f"]),
   ("xidcontinue",
    ["1c 9 8 p 5 0 2 p 1c 0 b 0 2 0 3 0 6 m 2 u 2 cp 5 b f 4 8 0 2 0 i 38 2 1 4 2 2 0 7 4 2 0 2 j",
     "2 2a 2 3u 2 4 3 4l 2 11 3 0 7 14 9 18 2 0 2 1 2 1 2 0 9 q 5 3 u a 6 21 5 2t 2 7 3 9 2 i 3 0",
     "h 1m 3 2s f 1h 5 0 3 0 3 19 j r 5 a 6 n 2 5 9 22 2 3k 3 9 2 i 2 7 3 1 3 l 2 6 2 0 4 3 3 8 3",
     "1 3 3 9 0 5 1 2 4 3 b b 0 2 0 3 2 2 5 5 1 3 l 2 6 2 1 2 1 2 1 3 0 2 4 5 1 3 2 4 0 8 3 2 0 8",
     "f c 2 2 8 2 2 2 l 2 6 2 1 2 4 3 9 2 2 2 2 3 0 g 3 3 9 a 6 2 2 2 7 3 1 3 l 2 6 2 1 2 4 3 8 3",
     "1 3 2 8 2 5 1 2 4 3 9 2 0 h 1 2 5 4 2 2 3 4 1 2 0 2 1 4 1 4 2 4 b 5 4 4 2 2 3 3 0 7 0 f 9 h",
     "c 2 2 2 m 2 f 3 8 2 2 2 3 8 1 2 2 3 0 3 3 3 9 h 3 2 7 2 2 2 m 2 9 2 4 3 8 2 2 2 3 8 1 7 1 2",
     "3 3 9 2 2 d c 2 2 2 1e 2 2 2 4 6 3 8 4 3 9 b 5 2 2 2 h 4 n 2 8 2 0 3 6 4 0 5 5 2 0 2 7 7 9",
     "3 1 e 1l 6 e 2 9 14 1 2 0 2 4 2 n 2 0 2 m 3 4 2 0 2 6 2 9 3 3 x 0 o 1 7 9 c 0 2 0 2 0 5 9 2",
     "z 5 j 2 h 2 z a 0 1m 21 7 25 3 11 2 0 6 0 3 16 2 98 2 3 3 6 2 0 2 3 3 14 2 3 3 w 2 3 3 6 2",
     "0 2 3 3 e 2 1k 2 3 3 1u 3 2 a 8 f f h 2d 3 5 4 h7 3 g 2 p 6 22 4 a 8 l a l c j d c 2 2 2 1",
     "d 2b 4 0 5 1 3 9 y 2 2 a 7 2g 8 16 6 1x b u 2 b 5 b b 13 3 4 c 17 5 p 7 a 12 r 5 1q 2 s 3 a",
     "7 9 e 0 9 d 2 f 1e 24 4 9 i 8 d 37 d 1j 9 9 4 1c 3 a 6 16 3 2 h 2 2 12 6 et 3 5 3 11 3 5 3",
     "7 2 0 2 0 2 0 2 u 3 1g 2 6 2 0 4 2 2 6 4 3 3 5 5 c 6 2 2 6 g 1 1e 1 k 0 t 0 e 0 h c 1g c 5",
     "0 4 b i 0 5 0 3 9 2 0 3 5 7 0 2 0 2 0 2 f 3 3 6 4 5 0 i 14 22g 6c 7 8 d 11 2 0 6 0 3 1j 8 0",
     "g n a 6 2 6 2 6 2 6 2 6 2 6 2 6 2 6 2 v ee 2 q e 2 4 3 4 5 2d 3 1 3 2 2 2m 6 16 2 2l i v 1d",
     "f e9 533 1t h3g 1w 19 3 7g 4 r l 1b 5 9 2 36 12 8 3 2u 3 1u 3 1 2 0 2 7 m 1h 5 0 k 1f d 1x",
     "b 9 7 n 4 0 2 1c 3 z d s 4 1s f a 7 u 2 1i a d 3 9 7 m 4 20 p 2 3 f 3 4 b 5 3 5 3 5 a 6 2 6",
     "2 16 2 d 7 3e 2 1 3 9 7 8mb d m 5 1c 6it a5 3 2x 13 6 d 4 6 b 2 c 2 4 2 0 2 1 2 1 2 2z y 3u",
     "7 61 j 1r 3 1h 15 9 7 f h f 4 1 p 2 y 0 2 0 4 0 2 0 2 0 2 0 2 3h k 9 8 p 5 0 2 p b 2h 4 5 3",
     "5 3 5 3 2 10 b 2 p 2 i 2 1 2 e 3 d z 3e 1y 1g 3t 0 3n s 4 1c g 0 w v e t 6 16 6 t 3 z 5 7 2",
     "4 17 4d 3 9 7 z 5 z 5 13 9 1f d a 2 e 2 6 2 1 2 a 2 e 2 6 2 1 4 1f d 8m a l b 7 p 5 2 15 2",
     "8 1y 5 3 0 2 17 2 1 4 0 3 m b m a u 1u i 2 1 b l b p 1z 1j 7 1 1t 3 2 1 6 7 2 2 2 s 3 2 5 0",
     "x s 4 s 10 7 2 t q 1h b l b i e h 33 20 1k 1e e 1e e 13 9 9 7 11 4 4 2 m 6z 15 2 1 4 1 h 2",
     "1k w b 0 9 w w l 17 k s m a 1y w f a 1n 8 0 e o 8 9 7 1g 2 9 5 3 9 z 3 0 a 1w 5 3 2 c 2 0",
     "10 h 2 10 7 3 1r 6 2 0 2 3 2 e 2 9 8 1m 6 9 7 3 2 7 3 1 3 l 2 6 2 1 2 4 2 9 3 1 3 2 3 0 7 0",
     "6 6 3 6 4 4 c 9 2 0 3 0 2 11 2 9 2 0 3 0 2 3 2 7 e 1 u 22 6 9 5 3 v 1x 2 0 9 9 4n 1h 3 8 o",
     "5 z 1s 4 0 c 9 13 1k 8 9 7 j t q 3 e 5 9 7 6 56 1m 2u 21 m 7 3 0 3 7 2 1 2 t 2 1 3 8 d 9 1z",
     "7 3 19 3 7 2 1 s 1q 9 0 9 21 4 0 j 20 5k w g 9 7 8 2 18 2 8 g 9 p t 3 l 2 d 22 6 2 1 2 17 4",
     "0 2 1 2 8 9 9 7 5 2 1 2 10 2 1 2 5 8 9 8n m a g 2 14 4 4 e a 2e 0 28 pl 2v 32 i 5f 219 2o g",
     "tr h l b 32y 6 g6 5a2 1l 1c7 fs 8 u 2 9 7 26 2 9 7 t 3 4 c 1i a 3 d 9 a k 6 i c1 18 4 9 5j",
     "1r 3l 22 5 1k 8 g 1t 1 2 1 c 1 f 4qf 9 yd 16 9 6w8 3 2 6 2 1 2 82 g 0 u 2 3 0 f 3 9 az 1s5",
     "2y 6 c 4 8 8 9 4 1 382 9 ef 19 3 m f3 4 4 5 9 7 3 6 v 3 45 2 cc 2c 2 1y 2 1 3 0 3 1 3 3 2 b",
     "2 0 2 6 2 1s 2 3 3 7 2 6 2 r 2 3 2 4 2 0 4 6 2 9f 3 o 2 o 2 u 2 o 2 u 2 o 2 u 2 o 2 u 2 o 2",
     "7 3 1d e9 1i 5 1d 9 0 f 0 n 4 2 e up u 7 5 5y 6 2 g 3 6 2 1 2 4 6 1p y 0 35 18 4 d 3 9 5 0",
     "8y u i 1l d3 15 5z 16 di 6 2 3 2 1 2 e 2 5g c 6 16 23 5 9 x3 3 2 q 2 1 2 0 3 0 2 9 2 3 2 0",
     "2 0 7 0 5 0 2 0 2 0 2 2 2 1 2 0 3 0 2 0 2 0 2 0 2 0 2 1 2 0 3 3 2 6 2 3 2 3 2 0 2 9 2 g 6 2",
     "2 4 2 g 2lx 9 sn wyn x 37d 7 65 3 4g1 f 5rk g h9 1wj f1 15v 3t6 6 38f f9e9 6n"]),
   ("cased",
    ["1t p 7 p 1c 0 b 0 5 0 6 m 2 u 2 5e 2 3 5 5r 3 y 8 1 v 4 2p 0 17 3 3 1 3 3 2 0 7 0 2 2 2 0 2",
     "j 2 2a 2 3u 9 4l 2 11 a 14 26w 11 2 0 6 0 3 16 2 3 ip 2d 3 5 1oj a 6 16 3 2 1t 5b 1t 7p 3 5",
     "3 11 3 5 3 7 2 0 2 0 2 0 2 u 3 1g 2 6 2 0 4 2 2 6 4 3 3 5 5 c 6 2 2 6 39 0 e 0 h c 2u 0 5 0",
     "3 9 2 0 4 4 7 0 2 0 2 0 2 3 2 5 5 0 3 3 6 4 5 0 i v 4 1 mq 1f 1ef 6c 7 3 4 1 d 11 2 0 6 0",
     "nwz 19 j t 3p 2t 4 3 2 1p 3 1 2 0 2 7 m 4 2 2 mu 16 2 d 7 27 fnl 6 d 4 sq p 7 p x2 27 2p z",
     "5 z 39 a 2 e 2 6 2 1 2 a 2 e 2 6 2 1 ck 0 3 2 2 15 2 8 xy 1e e 1e 2m l b l 26z 1r gv5 1r",
     "k1t 2c 2 1y 2 1 3 0 3 1 3 3 2 b 2 0 2 6 2 1s 2 3 3 7 2 6 2 r 2 3 2 4 2 0 4 6 2 9f 3 o 2 o 2",
     "u 2 o 2 u 2 o 2 u 2 o 2 u 2 o 2 7 1f9 9 2 j 7 5 7a 1p 1oz 1v 1kd p 7 p 7 p"]),
   ("dash",
    ["19 0 125 0 1g 0 2te 0 sm 0 1l6 5 1q 0 14 0 g 0 av 0 2dh 0 3 0 w 1 5 0 t 0 cf 0 k 0 34 0",
     "14lt 1 12 0 b 0 4q 0 2u9 0 8v 0"]),
   ("diacritic",
    ["2m 0 2 0 20 0 7 0 5 0 3 1 e0 4e 2 7 6 5 i 1 5 0 a 1 72 4 5u 0 1k 18 2 0 2 1 2 1 2 0 3o 7 5",
     "1 3r 1 5 1 4 2 1w q 2k a 1n a z 1 3j 7 16 9 h r 1q 0 h 0 4 3 t 0 23 0 h 0 33 0 h 0 33 0 h 0",
     "1c 2 1p 0 h 0 8 0 3c 0 33 0 h 0 33 0 h 0 32 1 h 0 3h 0 34 0 d 5 2 0 30 0 e 4 24 1 s 0 2 0 2",
     "0 5 1 1v 2 2 1 1r 0 35 0 2 1 15 1 5 4 q 6 2 0 b 1 jm 2 qd 1 v 0 45 a a 0 9o 2 85 0 l 7 3 0",
     "1d e 3 a 2x 0 g 0 13 8 1j 1 1n 0 c 1 1v 1 1t 5 2b o 5 0 7 0 3 2 1f 1q 1d z 6 b 12 a ce 0 2",
     "2 c 2 e 2 e 2 e 1 2k1 2 8u 0 e3 5 2y 3 2o 0 n77 0 d 1 2 0 t 1 2b 1 f x 2v 2 32 1 d 0 12 0",
     "48 0 s h 1m 3 11 0 2o 0 d 0 11 0 46 2 1u 3 1g 0 2t 4 a 2 3l 1 fn5 0 le f 7j 0 2 0 1c 0 1a 1",
     "1w 0 l9 0 ww 5 2 15 2 8 hq 2 5 0 4m 1 fw 5 13 0 r 4 b4 2 1z a 1e 3 5d 0 16 0 21 1 3d 1 1r 0",
     "25 0 a 2 2x 1 4z 1 29 1 h 0 p 6 4 4 2i 2 2 1 e 1 2o 0 4 0 3g 1 70 1 3j 0 3b 1 38 0 7i 1 77",
     "1 5 0 4d 0 2c 0 j 0 2a 0 bq 0 77 0 2 1 2a 0 bu 1 o 0 44t e 8uy 0 1xd 4 1o 6 fp 1 f7 g 29 1",
     "cn3 3 2 6 2 1 64i 19 3 m f5 2 4 5 9 7 3 6 v 3 2v7 1p 5f 6 ag 0 1q 3 lb 1 kh 6 32 2 2 2"]),
   ("extender",
    ["53 0 ex 1 of 0 ca 0 hj 0 3u 0 2i 0 kx 0 3k 0 1tw 0 1l 0 h0 0 b3 0 1x 0 3uy 0 18 4 2w 1 2m 2",
     "lxz 0 16f 0 qr 0 n 0 3u 0 31 0 m 1 gos 0 1ld 1 158 0 s 0 5 0 y0 0 86 0 39 1 dv 2 y8 0 fxm 1",
     "wt 1 2 0 me1 1 xe 0 np 2"]),
   ("ideographic",
    ["9hi 1 q 8 f 2 qu 533 1t g73 hkx a5 3 2x n4b 0 s 4qf 9 yd 16 9 76w az f7p wyn x 37d 7 65 3",
     "4g1 f 5rk g h9 1wj f1 15v 3t6 6 38f"]),
   ("emoji",
    ["z 0 7 0 6 9 34 0 5 0 68e 0 d 0 61 0 n 0 2j 5 g 1 a8 1 d 0 4n 0 q a 5 2 5k 0 6g 1 b 0 a 0 1n",
     "3 2 4 a 0 3 0 3 1 3 0 5 0 3 0 2 1 3 0 4 0 4 1 9 2 6 0 2 0 6 b c 1 3 0 2 1 2 0 j 0 3 1 j 5 2",
     "0 2 1 4 1 6 0 3 1 5 1 c 1 6 1 3 0 6 1 2 0 2 1 l 1 6 5 2 3 3 0 5 0 3 0 3 5 2 0 3 0 2 0 2 0 7",
     "0 4 0 7 0 b 1 g 0 3 0 5 0 2 0 5 2 2 0 c 1 1d 2 a 0 f 0 f 0 ad 1 cw 2 k 1 1g 0 5 0 yj 0 d 0",
     "gq 0 2 0 2fzf 0 5n 0 4h 1 d 1 f 0 3 9 24 p 2 1 o 0 l 0 3 8 m 1 4v x 3 33 3 1 2 2 3 2a 3 2 2",
     "7a 2 1q c 5 2 n 8 1 3 7 d 0 3 3 3 0 5 1 e 1 3 0 9 1 a 0 6 2 d 2 9 2 3 0 2 0 5 0 7 0 4 0 7",
     "2d 1d 1x 6 7 3 2 5 9 4 0 2 1 4 0 3 9 6c b 5 0 7w 1a 2 9 2 54 35 c 4 9 6 1j 8 e 3 a 7 8"]),
   ("emojipresentation",
    ["6xm 1 5q 3 4 0 3 0 ei 1 m 1 1f b 18 0 k 0 e 0 9 1 i 1 6 1 9 0 6 0 m 0 8 1 2 0 5 0 3 0 8 0 5",
     "1 t 0 10 0 2 0 5 2 2 0 1q 2 p 0 f 0 nw 1 1g 0 5 0 2hf3 0 5n 0 5b 0 3 9 24 p 2 0 p 0 l 0 3 4",
     "2 2 m 1 4v w d 8 2 1x 2 l d 16 5 4 d g 4 0 4 1y 2 0 2 56 3 1q e 3 2 n j 0 r 1 e 0 2f 2c 1d",
     "1x 7 0 4 2 3 2 5 3 c 1 8 8 6c b 5 0 7w 1a 2 9 2 54 35 c 4 9 6 1j 8 e 3 a 7 8"]),
   ("emojimodifier",
    ["2qrf 4"]),
   ("emojimodifierbase",
    ["7j1 0 64 0 h 3 2iyg 0 1p 2 3 0 3 2 3a 1 3 a m i 4 0 5 2 2 2 8 0 2 0 p 0 5m 1 5 0 m 0 5 1 4v",
     "2 4 4 2c 0 h 2 a 0 c 0 g0 0 3 0 9 7 7 0 a 9 3 2 1l 0 1q 1 2 1 2 0 i 2 2 c 6e 2 17 8"]),
   ("emojicomponent",
    ["z 0 7 0 6 9 6ac 0 5y 0 17os 0 1c5z p e4 4 14h 3 gw31 2n"]),
   ("extendedpictographic",
    ["4p 0 5 0 68e 0 d 0 61 0 n 0 2j 5 g 1 a8 1 d 0 4n 0 q a 5 2 5k 0 6g 1 b 0 a 0 1n 3 2 4 a 0 3",
     "0 3 1 3 0 5 0 3 0 2 1 3 0 4 0 4 1 9 2 6 0 2 0 6 b c 1 3 0 2 1 2 0 j 0 3 1 j 5 2 0 2 1 4 1 6",
     "0 3 1 5 1 c 1 6 1 3 0 6 1 2 0 2 1 l 1 6 5 2 3 3 0 5 0 3 0 3 5 2 0 3 0 2 0 2 0 7 0 4 0 7 0 b",
     "1 g 0 3 0 5 0 2 0 5 2 2 0 c 1 1d 2 a 0 f 0 f 0 ad 1 cw 2 k 1 1g 0 5 0 yj 0 d 0 gq 0 2 0",
     "2fzf 0 14 3 2t b g 1 g 0 f 1 12 9 35 1 d 1 f 0 3 9 k 1j s e b 0 l 0 3 8 2 3 a m 7 57 3 33 3",
     "1 2 2 3 2a 3 2 2 3 6 71 2 1q c 5 2 n 8 1 3 7 d 0 3 3 3 0 5 1 e 1 3 0 9 1 a 0 6 2 d 2 9 2 3",
     "0 2 0 5 0 7 0 4 0 7 2d 1d 1x 6 7 3 2 2 c 4 0 2 5 3 c 63 11 d 3 1l 7 b 5 15 7 v 1 d 3 3 d a",
     "12 d 1a 2 9 2 54 2h 7 f r 2 2 2 1k 2 3 2 r 2 3 2 f 75 sd"]),
   ("quotationmark",
    ["y 0 5 0 3o 0 g 0 671 7 q 1 2rs 0 cq 3 e 2 14pu 3 5a 0 5 0 2j 1"]),
   ("joincontrol",
    ["6bw 1"]),
   ("noncharactercodepoint",
    ["1e4w v en 1 1ekf 1 1ekf 1 1ekf 1 1ekf 1 1ekf 1 1ekf 1 1ekf 1 1ekf 1 1ekf 1 1ekf 1 1ekf 1",
     "1ekf 1 1ekf 1 1ekf 1 1ekf 1 1ekf 1"]),
   ("defaultignorablecodepoint",
    ["4t 0 iq 0 jx 0 283 1 190 1 2e 4 1ks 4 r 4 1e f 3cl 0 14f0 f 6o 0 4h 0 28 8 119k 3 440 7",
     "h406 35r"]),
   ("variationselector",
    ["4qz 2 2 0 19f5 f i9yp 6n"]),
   ("patternwhitespace",
    ["9 4 j 0 2t 0 689 1 p 1"]),
   ("patternsyntax",
    ["x e b 6 r 3 2 0 r 3 z 6 2 0 2 1 2 0 2 1 5 0 5 0 4 0 o 0 w 0 655 n 9 e 3 i 2 9 8i jz 4h hh v",
     "sh 2 2w e9 3j aq 2 5 o g 0 14i6 1 7a 1"]),
   ("radical",
    ["96o p 2 2g d 5x"]),
   ("unifiedideograph",
    ["a9s 533 1t g73 hsf 1 2 0 2 1 b 0 2 0 2 1 3 2 1fpz wyn x 37d 7 65 3 4g1 f 5rk g h9 3hf 3t6 6",
     "38f"]),
   ("sentenceterminal",
    ["x 0 d 0 h 0 11m 0 44 2 51 0 18 2 6v 0 1q 0 2 0 4 1 86 1 1d1 1 lz 0 5 1 li 0 5j 1 4e 1 1a 0",
     "6 0 8r 1 9v 3 4j 1 b 1 3 1 u 2 58 1 1u 1 px 0 o 1 a 2 2i8 2 8j 0 e 0 n 1 by 0 n3x 0 7j 1 6c",
     "0 4 0 an 1 2f 1 2o 0 49 1 44 2 41 1 6y 0 g87 0 3 1 1o 0 4 1 4q 0 d 0 h 0 1u 0 25x 1 zi 4 19",
     "3 5a 1 3a 3 3k 2 3m 1 7 0 h 1 2h 1 2 1 31 0 8b 1 3a 1 ae 1 6 e 2y 1 6y 2 ee 0 2 0 70 1 2g 1",
     "bp 1 j9 1 23 1 eui 1 3q 0 1u 1 c 0 fe 1 89 0 fev 0 5wp 0"]),
   ("terminalpunctuation",
    ["x 0 b 0 2 0 c 1 4 0 n3 0 9 0 ea 0 1m 0 21 0 f 0 2 2 51 0 18 a 2 0 6k 1 1j 5 2 7 w 0 7a 1 z9",
     "1 4t 0 5 5 8o 1 ly 7 li 0 3h 2 20 1 4e 2 4 0 14 3 3 1 8r 1 9v 3 4j 1 b 1 2 2 u 2 58 4 1r 1",
     "px 0 o 1 a 2 2i8 2 8j 0 e 0 5 0 b 0 2 1 4 1 bx 1 n3w 1 7i 2 6c 4 an 1 2f 1 2o 0 48 2 44 2",
     "3k 0 h 1 6y 0 g87 0 3 1 1m 2 2 3 4q 0 b 0 2 0 c 1 4 0 1u 0 3 0 u3 0 1d 0 w7 0 5k 0 8n 1 49",
     "5 1x 5 2i 3 qh 4 19 3 5a 6 35 3 3k 2 3m 1 7 0 h 1 2h 4 31 0 8b 1 3a 2 d 1 9z 3 4 e 2y 1 6y",
     "2 ee 0 2 0 70 1 2g 1 5 1 bj 2 1a 0 hy 1 23 1 10s 4 dtm 1 3q 0 1u 2 b 0 fe 1 88 1 fev 0 5wo",
     "3"]),
   ("softdotted",
    ["2x 1 5h 0 7u 0 v 0 1h 0 l 0 8x 0 2r 0 2 0 4y2 0 1g 0 e 0 4 0 3p 0 4e 0 bq 0 5z 1 27n 0 2bom",
     "1 1f 1 1f 1 1f 1 1f 1 1f 1 1f 1 1f 1 1f 1 1f 1 1f 1 1f 1 1f 1 1on 0 8i 1 r 0"]),
   ("regionalindicator",
    ["2qcm p"])]

/-- The groups of general categories. -/
def categoryGroups : List (String × List String) :=
  [("c", ["cc", "cf", "cn", "co"]),
   ("l", ["lu", "ll", "lt", "lm", "lo"]),
   ("lc", ["lu", "ll", "lt"]),
   ("m", ["mn", "mc", "me"]),
   ("n", ["nd", "nl", "no"]),
   ("p", ["pc", "pd", "ps", "pe", "pi", "pf", "po"]),
   ("s", ["sm", "sc", "sk", "so"]),
   ("z", ["zs", "zl", "zp"])]

/-- The long names of the general categories. -/
def categoryAliases : List (String × String) :=
  [("uppercaseletter", "lu"), ("lowercaseletter", "ll"), ("titlecaseletter", "lt"),
   ("casedletter", "lc"), ("modifierletter", "lm"), ("otherletter", "lo"), ("letter", "l"),
   ("nonspacingmark", "mn"), ("spacingmark", "mc"), ("enclosingmark", "me"), ("mark", "m"),
   ("combiningmark", "m"), ("decimalnumber", "nd"), ("digit", "nd"), ("letternumber", "nl"),
   ("othernumber", "no"), ("number", "n"), ("connectorpunctuation", "pc"),
   ("dashpunctuation", "pd"), ("openpunctuation", "ps"), ("closepunctuation", "pe"),
   ("initialpunctuation", "pi"), ("finalpunctuation", "pf"), ("otherpunctuation", "po"),
   ("punctuation", "p"), ("punct", "p"), ("mathsymbol", "sm"), ("currencysymbol", "sc"),
   ("modifiersymbol", "sk"), ("othersymbol", "so"), ("symbol", "s"), ("spaceseparator", "zs"),
   ("lineseparator", "zl"), ("paragraphseparator", "zp"), ("separator", "z"), ("control", "cc"),
   ("cntrl", "cc"), ("format", "cf"), ("unassigned", "cn"), ("privateuse", "co"), ("other", "c")]

/-- The four-letter names of the scripts. -/
def scriptAliases : List (String × String) :=
  [("adlm", "adlam"), ("aghb", "caucasianalbanian"), ("ahom", "ahom"), ("arab", "arabic"),
   ("armi", "imperialaramaic"), ("armn", "armenian"), ("avst", "avestan"), ("bali", "balinese"),
   ("bamu", "bamum"), ("bass", "bassavah"), ("batk", "batak"), ("beng", "bengali"),
   ("bhks", "bhaiksuki"), ("bopo", "bopomofo"), ("brah", "brahmi"), ("brai", "braille"),
   ("bugi", "buginese"), ("buhd", "buhid"), ("cakm", "chakma"), ("cans", "canadianaboriginal"),
   ("cari", "carian"), ("cham", "cham"), ("cher", "cherokee"), ("chrs", "chorasmian"),
   ("copt", "coptic"), ("cpmn", "cyprominoan"), ("cprt", "cypriot"), ("cyrl", "cyrillic"),
   ("deva", "devanagari"), ("diak", "divesakuru"), ("dogr", "dogra"), ("dsrt", "deseret"),
   ("dupl", "duployan"), ("egyp", "egyptianhieroglyphs"), ("elba", "elbasan"), ("elym", "elymaic"),
   ("ethi", "ethiopic"), ("gara", "garay"), ("geor", "georgian"), ("glag", "glagolitic"),
   ("gong", "gunjalagondi"), ("gonm", "masaramgondi"), ("goth", "gothic"), ("gran", "grantha"),
   ("grek", "greek"), ("gujr", "gujarati"), ("gukh", "gurungkhema"), ("guru", "gurmukhi"),
   ("hang", "hangul"), ("hani", "han"), ("hano", "hanunoo"), ("hatr", "hatran"),
   ("hebr", "hebrew"), ("hira", "hiragana"), ("hluw", "anatolianhieroglyphs"),
   ("hmng", "pahawhhmong"), ("hmnp", "nyiakengpuachuehmong"), ("hung", "oldhungarian"),
   ("ital", "olditalic"), ("java", "javanese"), ("kali", "kayahli"), ("kana", "katakana"),
   ("kawi", "kawi"), ("khar", "kharoshthi"), ("khmr", "khmer"), ("khoj", "khojki"),
   ("kits", "khitansmallscript"), ("knda", "kannada"), ("krai", "kiratrai"), ("kthi", "kaithi"),
   ("lana", "taitham"), ("laoo", "lao"), ("latn", "latin"), ("lepc", "lepcha"), ("limb", "limbu"),
   ("lina", "lineara"), ("linb", "linearb"), ("lisu", "lisu"), ("lyci", "lycian"),
   ("lydi", "lydian"), ("mahj", "mahajani"), ("maka", "makasar"), ("mand", "mandaic"),
   ("mani", "manichaean"), ("marc", "marchen"), ("medf", "medefaidrin"), ("mend", "mendekikakui"),
   ("merc", "meroiticcursive"), ("mero", "meroitichieroglyphs"), ("miao", "miao"),
   ("mlym", "malayalam"), ("modi", "modi"), ("mong", "mongolian"), ("mroo", "mro"),
   ("mtei", "meeteimayek"), ("mult", "multani"), ("mymr", "myanmar"), ("nagm", "nagmundari"),
   ("nand", "nandinagari"), ("narb", "oldnortharabian"), ("nbat", "nabataean"), ("newa", "newa"),
   ("nkoo", "nko"), ("nshu", "nushu"), ("ogam", "ogham"), ("olck", "olchiki"), ("onao", "olonal"),
   ("orkh", "oldturkic"), ("orya", "oriya"), ("osge", "osage"), ("osma", "osmanya"),
   ("ougr", "olduyghur"), ("palm", "palmyrene"), ("pauc", "paucinhau"), ("perm", "oldpermic"),
   ("phag", "phagspa"), ("phli", "inscriptionalpahlavi"), ("phlp", "psalterpahlavi"),
   ("phnx", "phoenician"), ("plrd", "miao"), ("prti", "inscriptionalparthian"), ("qaac", "coptic"),
   ("qaai", "inherited"), ("rjng", "rejang"), ("rohg", "hanifirohingya"), ("runr", "runic"),
   ("samr", "samaritan"), ("sarb", "oldsoutharabian"), ("saur", "saurashtra"),
   ("sgnw", "signwriting"), ("shaw", "shavian"), ("shrd", "sharada"), ("sidd", "siddham"),
   ("sind", "khudawadi"), ("sinh", "sinhala"), ("sogd", "sogdian"), ("sogo", "oldsogdian"),
   ("sora", "sorasompeng"), ("soyo", "soyombo"), ("sund", "sundanese"), ("sunu", "sunuwar"),
   ("sylo", "sylotinagri"), ("syrc", "syriac"), ("tagb", "tagbanwa"), ("takr", "takri"),
   ("tale", "taile"), ("talu", "newtailue"), ("taml", "tamil"), ("tang", "tangut"),
   ("tavt", "taiviet"), ("telu", "telugu"), ("tfng", "tifinagh"), ("tglg", "tagalog"),
   ("thaa", "thaana"), ("thai", "thai"), ("tibt", "tibetan"), ("tirh", "tirhuta"),
   ("tnsa", "tangsa"), ("todr", "todhri"), ("toto", "toto"), ("tutg", "tulutigalari"),
   ("ugar", "ugaritic"), ("vaii", "vai"), ("vith", "vithkuqi"), ("wara", "warangciti"),
   ("wcho", "wancho"), ("xpeo", "oldpersian"), ("xsux", "cuneiform"), ("yezi", "yezidi"),
   ("yiii", "yi"), ("zanb", "zanabazarsquare"), ("zinh", "inherited"), ("zyyy", "common")]

/-- Other names of the binary properties. -/
def binaryAliases : List (String × String) :=
  [("alpha", "alphabetic"), ("lower", "lowercase"), ("upper", "uppercase"),
   ("wspace", "whitespace"), ("space", "whitespace"), ("hex", "hexdigit"),
   ("ahex", "asciihexdigit"), ("ids", "idstart"), ("idc", "idcontinue"), ("xids", "xidstart"),
   ("xidc", "xidcontinue"), ("dia", "diacritic"), ("ext", "extender"), ("ideo", "ideographic"),
   ("epres", "emojipresentation"), ("emod", "emojimodifier"), ("ebase", "emojimodifierbase"),
   ("ecomp", "emojicomponent"), ("extpict", "extendedpictographic"), ("qmark", "quotationmark"),
   ("joinc", "joincontrol"), ("nchar", "noncharactercodepoint"),
   ("di", "defaultignorablecodepoint"), ("vs", "variationselector"),
   ("patws", "patternwhitespace"), ("patsyn", "patternsyntax"), ("uideo", "unifiedideograph"),
   ("sterm", "sentenceterminal"), ("term", "terminalpunctuation"), ("sd", "softdotted"),
   ("ri", "regionalindicator")]

/-- Which characters differ in case only: runs of characters, each as its first code point, its
length, the step from one to the next, and the distance to the other form. -/
def caseRuns : List String :=
  ["1t q 1 w 23 1 1 6hr 2b 1 1 8c 2p q 1 -w 2z 1 1 6gv 37 1 1 7g 51 1 1 kn 51 1 1 lj 5c n 1 w",
   "5h 1 1 6ee 60 7 1 w 67 1 1 5vj 68 n 1 -w 6d 1 1 6di 6w 7 1 -w 73 1 1 3d 74 o 2 1 75 o 2 -1",
   "8i 3 2 1 8j 3 2 -1 8p 8 2 1 8q 8 2 -1 96 n 2 1 97 n 2 -1 ag 1 1 -3d ah 3 2 1 ai 3 2 -1 an 1",
   "1 -8c an 1 1 -7g ao 1 1 5f ap 1 1 5u aq 2 2 1 ar 2 2 -1 au 1 1 5q av 1 1 1 aw 1 1 -1 ax 2 1",
   "5p az 1 1 1 b0 1 1 -1 b2 1 1 27 b3 1 1 5m b4 1 1 5n b5 1 1 1 b6 1 1 -1 b7 1 1 5p b8 1 1 5r",
   "b9 1 1 2p ba 1 1 5v bb 1 1 5t bc 1 1 1 bd 1 1 -1 be 1 1 4j bf 1 1 wu9 bg 1 1 5v bh 1 1 5x",
   "bi 1 1 3m bj 1 1 5y bk 3 2 1 bl 3 2 -1 bq 1 1 62 br 1 1 1 bs 1 1 -1 bt 1 1 62 bw 1 1 1 bx 1",
   "1 -1 by 1 1 62 bz 1 1 1 c0 1 1 -1 c1 2 1 61 c3 2 2 1 c4 2 2 -1 c7 1 1 63 c8 1 1 1 c9 1 1 -1",
   "cc 1 1 1 cd 1 1 -1 cf 1 1 1k ck 1 1 2 ck 2 1 1 cl 2 1 -1 cm 1 1 -2 cn 1 1 2 cn 2 1 1 co 2 1",
   "-1 cp 1 1 -2 cq 1 1 2 cq 2 1 1 cr 2 1 -1 cs 1 1 -2 ct 8 2 1 cu 8 2 -1 d9 1 1 -27 da 9 2 1",
   "db 9 2 -1 dt 1 1 2 dt 2 1 1 du 2 1 -1 dv 1 1 -2 dw 1 1 1 dx 1 1 -1 dy 1 1 -2p dz 1 1 -1k e0",
   "k 2 1 e1 k 2 -1 f4 1 1 -3m f6 9 2 1 f7 9 2 -1 fu 1 1 8bv fv 1 1 1 fw 1 1 -1 fx 1 1 -4j fy 1",
   "1 8bs fz 2 1 8cf g1 1 1 1 g2 1 1 -1 g3 1 1 -5f g4 1 1 1x g5 1 1 1z g6 5 2 1 g7 5 2 -1 gg 1",
   "1 8bj gh 1 1 8bg gi 1 1 8bi gj 1 1 -5u gk 1 1 -5q gm 2 1 -5p gp 1 1 -5m gr 1 1 -5n gs 1 1",
   "wnj gw 1 1 -5p gx 1 1 wnf gz 1 1 -5r h0 1 1 wo7 h1 1 1 wmg h2 1 1 wn8 h4 1 1 -5t h5 1 1 -5v",
   "h6 1 1 wn8 h7 1 1 8af h8 1 1 wn5 hb 1 1 -5v hd 1 1 8al he 1 1 -5x hh 1 1 -5y hp 1 1 89z hs",
   "1 1 -62 hu 1 1 wn7 hv 1 1 -62 hz 1 1 wmi i0 1 1 -62 i1 1 1 -1x i2 2 1 -61 i4 1 1 -1z ia 1 1",
   "-63 il 1 1 wlx im 1 1 wlu n9 1 1 2c n9 1 1 38 n9 1 1 5mh og 2 2 1 oh 2 2 -1 om 1 1 1 on 1 1",
   "-1 or 3 1 3m ov 1 1 38 p2 1 1 12 p4 3 1 11 p8 1 1 1s pa 2 1 1r pc 1 1 5kz pd h 1 w pe 1 1",
   "1q ph 1 1 2o pk 1 1 1l pk 1 1 2k pl 1 1 -2c pl 1 1 5k5 pm 1 1 2e po 1 1 -kn ps 1 1 1i pt 1",
   "1 28 pv 1 1 v pv 9 1 w py 1 1 1b q1 1 1 5tp q4 1 1 -12 q5 3 1 -11 q8 1 1 5kj q9 h 1 -w qa 1",
   "1 u qd 1 1 1s qg 1 1 p qg 1 1 1o qh 1 1 -38 qh 1 1 5j9 qi 1 1 1i qk 1 1 -lj qo 1 1 m qp 1 1",
   "1c qq 1 1 -v qq 1 1 1 qr 1 1 -1 qr 9 1 -w qu 1 1 f qx 1 1 5st r0 1 1 -1s r1 2 1 -1r r3 1 1",
   "8 r4 1 1 -1q r4 1 1 -u r5 1 1 -1l r5 1 1 -p r5 1 1 z r9 1 1 -1b r9 1 1 -f ra 1 1 -1i ra 1 1",
   "-m rb 1 1 -8 rc c 2 1 rd c 2 -1 s0 1 1 -2e s0 1 1 -1i s1 1 1 -28 s1 1 1 -1c s2 1 1 7 s3 1 1",
   "-38 s4 1 1 -2k s4 1 1 -1o s4 1 1 -z s5 1 1 -2o s5 1 1 -1s s7 1 1 1 s8 1 1 -1 s9 1 1 -7 sa 1",
   "1 1 sb 1 1 -1 sd 3 1 -3m sg g 1 28 sw w 1 w sy 1 1 4tq t0 1 1 4tp ta 1 1 4tg td 2 1 4te te",
   "1 1 4tf tm 1 1 4t8 ts w 1 -w tu 1 1 4su tw 1 1 4st u6 1 1 4sk u9 2 1 4si ua 1 1 4sj ui 1 1",
   "4sc uo g 1 -28 v4 h 2 1 v5 h 2 -1 v6 1 1 4rp v7 1 1 4ro wa r 2 1 wb r 2 -1 xs 1 1 f xt 7 2",
   "1 xu 7 2 -1 y7 1 1 -f y8 1c 2 1 y9 1c 2 -1 10x 12 1 1c 129 12 1 -1c 3a8 12 1 5ls 3bb 1 1",
   "5ls 3bh 1 1 5ls 3bk 17 1 2bk 3ct 3 1 2bk 3vk 28 1 tzk 3xs 6 1 8 3y0 6 1 -8 5mo 1 1 -4tq 5mo",
   "1 1 -4su 5mp 1 1 -4tp 5mp 1 1 -4st 5mq 1 1 -4tg 5mq 1 1 -4sk 5mr 2 1 -4te 5mr 2 1 -4si 5ms",
   "1 1 1 5mt 1 1 -4tf 5mt 1 1 -4sj 5mt 1 1 -1 5mu 1 1 -4t8 5mu 1 1 -4sc 5mv 1 1 -4rp 5mv 1 1",
   "-4ro 5mw 1 1 r7m 5mw 1 1 r7n 5mx 1 1 1 5my 1 1 -1 5n4 17 1 -2bk 5od 3 1 -2bk 5tl 1 1 r9g",
   "5tp 1 1 2xy 5u6 1 1 raw 5xc 23 2 1 5xd 23 2 -1 600 1 1 1n 601 1 1 1m 61n 1 1 -1n 61n 1 1",
   "-1m 61q 1 1 -5vj 61s 1c 2 1 61t 1c 2 -1 64g 8 1 8 64o 8 1 -8 64w 6 1 8 654 6 1 -8 65c 8 1 8",
   "65k 8 1 -8 65s 8 1 8 660 8 1 -8 668 6 1 8 66g 6 1 -8 66p 4 2 8 66x 4 2 -8 674 8 1 8 67c 8 1",
   "-8 67k 2 1 22 67m 4 1 2e 67q 2 1 2s 67s 2 1 3k 67u 2 1 34 67w 2 1 3i 680 8 1 8 688 8 1 -8",
   "68g 8 1 8 68o 8 1 -8 68w 8 1 8 694 8 1 -8 69c 2 1 8 69f 1 1 9 69k 2 1 -8 69m 2 1 -22 69o 1",
   "1 -9 69q 1 1 -5mh 69q 1 1 -5k5 69q 1 1 -5j9 69v 1 1 9 6a0 4 1 -2e 6a4 1 1 -9 6a8 2 1 8 6ab",
   "1 1 -5kz 6ag 2 1 -8 6ai 2 1 -2s 6ao 2 1 8 6ar 1 1 -5kj 6at 1 1 7 6aw 2 1 -8 6ay 2 1 -34 6b0",
   "1 1 -7 6b7 1 1 9 6bc 2 1 -3k 6be 2 1 -3i 6bg 1 1 -9 6jq 1 1 -5tp 6jq 1 1 -5st 6ju 1 1 -6hr",
   "6ju 1 1 -6gv 6jv 1 1 -6ee 6jv 1 1 -6di 6k2 1 1 s 6ku 1 1 -s 6lc g 1 g 6ls g 1 -g 6mb 1 1 1",
   "6mc 1 1 -1 792 q 1 q 79s q 1 -q 8ow 1c 1 1c 8q8 1c 1 -1c 8rk 1 1 1 8rl 1 1 -1 8rm 1 1 -8af",
   "8rn 1 1 -2xy 8ro 1 1 -89z 8rp 1 1 -8bv 8rq 1 1 -8bs 8rr 3 2 1 8rs 3 2 -1 8rx 1 1 -8bg 8ry 1",
   "1 -8al 8rz 1 1 -8bj 8s0 1 1 -8bi 8s2 1 1 1 8s3 1 1 -1 8s5 1 1 1 8s6 1 1 -1 8se 2 1 -8cf 8sg",
   "1e 2 1 8sh 1e 2 -1 8vf 2 2 1 8vg 2 2 -1 8vm 1 1 1 8vn 1 1 -1 8w0 12 1 -5ls 8x3 1 1 -5ls 8x9",
   "1 1 -5ls wu8 n 2 1 wu9 n 2 -1 wui 1 1 -r7m wuj 1 1 -r7n ww0 e 2 1 ww1 e 2 -1 x0i 7 2 1 x0j",
   "7 2 -1 x0y v 2 1 x0z v 2 -1 x2x 2 2 1 x2y 2 2 -1 x31 1 1 -r9g x32 5 2 1 x33 5 2 -1 x3f 1 1",
   "1 x3g 1 1 -1 x3h 1 1 -wmg x3k 2 2 1 x3l 2 2 -1 x3o 1 1 1c x3q a 2 1 x3r a 2 -1 x4a 1 1 -wn8",
   "x4b 1 1 -wnj x4c 1 1 -wnf x4d 1 1 -wn5 x4e 1 1 -wn8 x4g 1 1 -wlu x4h 1 1 -wmi x4i 1 1 -wlx",
   "x4j 1 1 ps x4k 8 2 1 x4l 8 2 -1 x50 1 1 -1c x51 1 1 -wn7 x52 1 1 -raw x53 2 2 1 x54 2 2 -1",
   "x57 1 1 -wo7 x58 1 1 1 x59 1 1 -1 x5c 1 1 1 x5d 1 1 -1 x5i 3 2 1 x5j 3 2 -1 x5o 1 1 -wu9",
   "x6d 1 1 1 x6e 1 1 -1 xub 1 1 -ps xv4 28 1 -tzk 1dl1 1 1 1 1dl2 1 1 -1 1ee9 q 1 w 1ef5 q 1",
   "-w 1fcw 14 1 14 1fe0 14 1 -14 1fhs 10 1 14 1fiw 10 1 -14 1fn4 b 1 13 1fng f 1 13 1fnw 7 1",
   "13 1fo4 2 1 13 1fo7 b 1 -13 1foj f 1 -13 1foz 7 1 -13 1fp7 2 1 -13 1h1c 1f 1 1s 1h34 1f 1",
   "-1s 1h74 m 1 w 1h80 m 1 -w 1jfk w 1 w 1jgg w 1 -w 20cg w 1 w 20dc w 1 -w 2olc y 1 y 2oma y",
   "1 -y"]

/-! ### Reading the tables -/

/-- The value of a digit in base 36. -/
def digit36 (c : Char) : Nat :=
  if '0' ≤ c && c ≤ '9' then c.toNat - '0'.toNat else c.toNat - 'a'.toNat + 10

/-- The numbers of a text, which are separated by blanks; a leading hyphen makes one negative. -/
def numbers36 (s : String) : List Int :=
  let (done, current, negative, started) :=
    s.toList.foldl (fun (done, n, negative, started) c =>
      if c = ' ' then
        (if started then (if negative then -(n : Int) else n) :: done else done, 0, false, false)
      else if c = '-' then (done, 0, true, true)
      else (done, n * 36 + digit36 c, negative, true)) (([] : List Int), (0 : Nat), false, false)
  (if started then (if negative then -(current : Int) else current) :: done else done).reverse

/-- Ranges from gaps and lengths, starting from a code point. -/
def rangesFrom (start : Nat) : List Int → Ranges
  | gap :: length :: rest =>
    let lo := start + gap.toNat
    (lo, lo + length.toNat) :: rangesFrom (lo + length.toNat) rest
  | _ => []

def readRanges (lines : List String) : Ranges := rangesFrom 0 (lines.flatMap numbers36)

/-- A name without case, blanks, hyphens, underscores and a leading "is". -/
def normalizeName (s : String) : String :=
  let cs := s.toList.filterMap fun c =>
    if c = ' ' || c = '-' || c = '_' || c = '\t' then none
    else if 'A' ≤ c && c ≤ 'Z' then some (Char.ofNat (c.toNat + 32))
    else if c.toNat < 128 then some c
    else none
  match cs with
  | 'i' :: 's' :: rest => if rest = ['c'] then "isc" else String.ofList rest
  | _ => String.ofList cs

def resolve (aliases : List (String × String)) (name : String) : String :=
  (aliases.lookup name).getD name

/-- The ranges of a general category, by its normalized name. -/
def category? (name : String) : Option (List Ranges) :=
  let name := resolve categoryAliases name
  let one (n : String) : Option Ranges := (categoryTable.lookup n).map readRanges
  match categoryGroups.lookup name with
  | some names => some (names.filterMap one)
  | none => (one name).map fun r => [r]

def script? (name : String) : Option Ranges :=
  (scriptTable.lookup (resolve scriptAliases name)).map readRanges

def binary? (name : String) : Option Ranges :=
  (binaryTable.lookup (resolve binaryAliases name)).map readRanges

/-- A run of characters and the distance to their other forms. -/
structure CaseRun where
  first : Nat
  count : Nat
  step : Nat
  distance : Int

def caseRunsOf : List Int → List CaseRun
  | first :: count :: step :: distance :: rest =>
    ⟨first.toNat, count.toNat, step.toNat, distance⟩ :: caseRunsOf rest
  | _ => []

/-- The pairs of a character and another form of it. -/
def casePairs : List (Nat × Nat) :=
  (caseRunsOf (caseRuns.flatMap numbers36)).flatMap fun r =>
    (List.range r.count).map fun i =>
      let n := r.first + i * r.step
      (n, ((n : Int) + r.distance).toNat)

end DialogueStore.Text
