import DocumentModel.Text.CharRanges

/-!
# Characters of words

Letters, marks, decimal digits, connecting punctuation and the joiners, which together are the
characters of a word; and the decimal digits alone.
-/

namespace DocumentModel

namespace Pattern

/-- The characters of a word. -/
def wordRanges : Text.CharRanges := Text.CharRanges.decode <|
  "xg97p401pxf0a0405m1u1K94be47010hzk1123106012101j1yi1Aa1Bc1x5206x88xc101111108q43ta5y94z517" ++
  "291i20gxq2z4exl40202xdir4a5n158ya1A0291i17212l1610332821238041142ba0102215412l161111112014" ++
  "41223073107fb218121l16111429121220f329961217212l1611142821227241142910g115321331101131323b" ++
  "4432132060e9gc121m1f2812137112202329g317121m19142812137161132912cc121xi1214537429a5121h3n1" ++
  "81026304510176921dxp5e19x7110141n101m2410161923x00n169b01010491x34j1h1x390xpy96yd2x510502x" ++
  "a1Gc132610132x8132x0132610132e1xo132y222x0fgyl253Pb2g1p5ya3a7l9lbjcc1211cyj304129x121a6yo7" ++
  "xa5y5au1b4bax724bxb4p69x6r4xu1s2a69d08uxhyc39h8czjcxn893xg2a5xa22g21x65Ml252x525271010101u" ++
  "2xk1610321633254c5216f1xh1j0s0d0gcxjx0h040291034601010131a235440hx8VdxjxUmD468cx510502xn70" ++
  "fn96161616161616161vxf0Kl2pe14244yl21221yp135xa1ythvxgfM0CJvy0RQcy3xd2Ec3rkxi191zix582z62y" ++
  "2211017lxl40jxjcy5a96n301xg2x3cs3y0ea6u1xm9d296m3y8o22f24a5252596161xa1d6zq11296GZ3cm4xgEE" ++
  "4Hd2z9x66c45b1c141011111zbx1Haixv2xlx8b4fgf31o2x041A6j97p401pbyo35252522x3b1p1i111e2dx2zqy" ++
  "5xkA80A2s3xgf0vvdt5xa5t2x34714xaAt296x34x34x78xjca1e16111a1e16113xjcFm9la7o51x918y55201xb1" ++
  "1302mam9uy1i11alapy6xn61y031157121s2240x0s3sx371tpxlalaidhzey8xnxidxidx7896x5341mDqx91131g" ++
  "2xnx0a08x0vlxakrm9y6vf9xr70do796xk19438x3209y4431c10x3h1x463xu610131e197xq596317212l161114" ++
  "1921222060562634b910201x51910201317d1tya5943uy51089B6xl28n5x2y030b9x6xo796jsq2e4966Bpxqz5y" ++
  "9l72027111t1128c9y672xd2711rxu808y930iy8C7x0f9681xc18f9ot2l1dy96111xb3011188965111x4111579" ++
  "Fmm9g1x834dayl0yfYpz6zehC3yOcz0fxxfglazYq5O6CRpxpxS6No7u196ye196t24bxm93c99k5iJgxc39C6xvA0" ++
  "ya4xo7gy0111b1eB_n8xClx99ET7316111F2f0t220e38IbyE4za5c387931Ayh9M6xd2mMu4358726u3Ak2Jryk1y" ++
  "6112021231b10161y01327161r131410361Gj2o1o1u1o1u1o1u1o1u1o172xhM0xm4xh80e0m41exygu65Cl61g26" ++
  "11145xtx10zgxc3d2940G1uhxpKmx9CmxaL5613111e1C4b6x9yb49xB631q111020191310106040101012111020" ++
  "1010101011102316131310191g52141gPkp6p6pyP69xw6xFSvx0Axp6Ct2BQ1eDFgfPdyJ2MtxL2AWa5AyvRTGgDf"

/-- The decimal digits of all scripts. -/
def digitRanges : Text.CharRanges := Text.CharRanges.decode <|
  "xg9xN69A69C69Is9zm9zm9zm9zm9zm9zm9zm9zm9zm9z09zm9y69Em9y69xW69x69Fc9A09B6969Bm9ym9A6969xyK" ++
  "69R69x69C69m9ym9Im9QUm9xI69yA6969Us9A09xs9Ag9Em9Gm9zm9Hm9z696jyc9J69z69Qm9ym9Dm9y69J69MKm9" ++
  "yF69ym9A69Mm9TXm9ySkxhyG09J69Lm9Dn9Wl9AQm9"

end Pattern

end DocumentModel
