import DocumentModel.Text.CharRanges

/-!
# Letters and numbers of all scripts

The Unicode property `Alphabetic`, and the characters of the general categories for numbers.
-/

namespace DocumentModel

namespace Text

/-- The property `Alphabetic`. -/
def alphabeticRanges : CharRanges := CharRanges.decode <|
  "y1p6pxf0a0405m1u1K94be47010ym0th1123106012101j1yi1Aa8B51x5206x8x7d101111108q43ta5xn16ez517" ++
  "4742a220gxfdz4ox091405n2ijo7a5n15808x9ab366yb1f124edi17212l16103337212110804114c1a04215412" ++
  "l16111111444121407310h5b218121l16111438121130f3l34217212l161114372121914114d0g115321331101" ++
  "131323b4432123060x8c121m1f37121281122023s317121m1914371212816113d2cc121x8271212105374m5121" ++
  "h3n181026851017i1dxp5660xj110141n101i12241060e3x00xv71x34i4f1x3y3xm1024gxva32x510502xa1Gc1" ++
  "32610132x8132x0132610132e1xo132y2x5fgyl253Pb2g1p5ya3a7jbkcjcc1211cxj2ie040y3yo7xa5y5au1b48" ++
  "nt24bxb4pxmr4xu2jxi0n1b2xhxj1e17xjx923axb1aexmm2ax32a5xa22x931511305Bvjx1bEl252x5252710101" ++
  "01u2xk1610321633254c5216zk0d0gcz5040291034601010131a235440hx8VdxjxUmD46331cx510502xn70gm96" ++
  "161616161616161vxf0Kl2p874244yl621yp135xa1ythvxgfM0CJvy0RQcy3xd2Ec3fa1kxe573zgx782z62y2211" ++
  "017lj1x0oxjcy310xc53012ax05x2ds3xi1bf0gfa41xm9dim3y41010o22f23b5252596161xa1d6zqlGZ3cm4xgE" ++
  "E4Hd2z9x66c45b1c141011111zbx1Haixv2xlx8bzk41A6x4p6pbyo35252522x3b1p1i111e2dx2zqy5xkEbs3xgx" ++
  "fvdt5xa5t2x34714xaAtix34x34x78xjca1e16111a1e16113xjcFm9la7o51x918y55201xb11302mam9uy1i11al" ++
  "apy6xn61y031157121sxas3sx371rrxlalaidhzey8xnxidxidx7x2r305mDqx91131g2xn03sa08lxahxekrm9y5x" ++
  "b4axo90donxih38x2309xv1391a010x3h1x12063xu610131e197xon317212l161114372121306056s910201x51" ++
  "9102013113010xcy11213k2uy12110Boxl26p5x2xu1030xrxl20y7q2dl6Bpxoz7xvv72027111t112123yt72xd2" ++
  "51011rxi29hy750iy8C7x0v81xc1610xht2l1dy96111xb3011121021o5111x4111310G7m9g1x832zf0yfYpz6ze" ++
  "hC3yOcz0fxxfh5pzYq5O6CRpxexShNo7uhyehtixfg3vk5iJgxcCjxvA0ya4xo7gy0110c1eB_n8xClx99ET731611" ++
  "1F2f0t220e38IbyE4za5c387940BX1yk1y6112021231b10161y01327161r131410361Gj2o1o1u1o1u1o1u1o1u1" ++
  "o17xVku65Cl61g2611145xtx10zgxca6g0G1tixbL4rD4t20Lf613111e1C4xry33030xBk31q1110201913101060" ++
  "401010121110201010101011102316131310191g52141gPkp6p6pzPmxFSvx0Axp6Ct2BQ1eDFgfPdyJ2MtxL2AWa" ++
  "5Ayv"

/-- The general categories `Nd`, `Nl` and `No`. -/
def numericRanges : CharRanges := CharRanges.decode <|
  "xg9zo15022xJ19A69C69Is9zm945zc9zm9zm925zeczj986z79z867izd9z09zm9y6jEc9y69SfjXh2Df969m9Fc9A" ++
  "0aB5969Bm9ym9A6969xwm03569C6xi24SmxryelPmtxH90U90p8e2Gn3Aa9u71ex09x7eYX09Bs9G05Aq9x69C69m9" ++
  "ym9Im9QUm9Ldxccxoh1Glqx43t080A64Ca9Ze7p6x78yb4m5B012f2xdy08xk1u2yb4z87o7x96Ga5xg969EmuAu9x" ++
  "a3zg6A6tA09xs9Ag97jDr9Gm9zm9Hm9z696jycbJ4iyt9Qm9ymsD39y69J69z6kxxbzeLC19yF69ym9A6916Me9E6m" ++
  "TOp9xK6jcjzcoxylxhyG09J69Lm9Dn9Sc8A09Unxq1213ycxc1e-2cyT39"

def isAlphabetic (c : Char) : Bool :=
  if c.toNat < 0x80 then c.isAlpha else alphabeticRanges.has c.toNat

def isNumeric (c : Char) : Bool :=
  if c.toNat < 0x80 then c.isDigit else numericRanges.has c.toNat

def isAlphanumeric (c : Char) : Bool := isAlphabetic c || isNumeric c

end Text

end DocumentModel
