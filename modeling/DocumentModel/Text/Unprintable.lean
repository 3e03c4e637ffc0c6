import DocumentModel.Text.CharRanges

/-!
# Characters that cannot be shown as they are

Control, format, private-use, surrogate and unassigned code points, the separators other than the
blank, and the characters that extend the one before them.
-/

namespace DocumentModel

namespace Text

/-- The general categories `Cc`, `Cf`, `Cs`, `Co`, `Cn`, `Zl`, `Zp` and `Zs`, less the blank. -/
def invisibleRanges : CharRanges := CharRanges.decode <|
  "0vyvx1c0Sa1637010k0Id0x61xi130xn7r36gm0C00xg1xr1z5dxr1xh1f0s110b4v7yb0B108121m070124191214" ++
  "7132051p1306321m07020202110532132164016h9309030m0702051a030311e41c670308121m07020519121363" ++
  "32051i9206230422010222232c3523041151dl4d030n0g190304620311141a6m030n0a051903046252041a03bd" ++
  "030xj03063g1q030i2o090117213601085a13bxq3tx4201050o010n1501070a14vy80x43x70x40f0dx4C601411" ++
  "Hp041701041x9041x1041701041f0xp041y31x02q5ym161Q00s2yp6m8o8kbd0302byu1a5a5e0b5yp6xb4y69v0c" ++
  "3c312xa15axc3q5b2xu1y10t1b5a5e1vxgyd0B67xs2f2xu4xb1b7xb4Mm161x616180101010v1xl0f0e160j1309" ++
  "go7xfg21r0d2x1ex1eAc3QqlbkxUk1x00Gt4xd01411xo62do87070707070707070zux1q0ypbCmpg0xv0ym1z74x" ++
  "b0yu0ym8xg0YPd2xn8GsjBo7Ce120108kxr2a5xo7y67c5zkau2ye0b3x10xn8e1a1z7ns96161687070xs3zu1a5G" ++
  "Z4bn3xhEE3He1zax57b54q050102020ztfJt1xm61vxa5xj0j04350A73Bu261616132707c21c0q0j020f1ex1zr4" ++
  "33xd2yo0d21xexeA1t2xhes3x48u4xb4u0x53ex9Au1a5x43x43x87xkac0f07020b0f07022xkbFn8m98n60xa09y" ++
  "46110xc02211n0y879xfj024x12r41xvxo3k1xi0248030t133a696y0vx73c8xm2t1r4q64b7yfy9xmxjcxj6xe7a" ++
  "5x62t72Cfv0xa0312f3xmxc7xalqx5sjn8ye3x48xu05cp6a5xl0i7x78z00kai0xfxt701040f0b5xr4a5408121m" ++
  "0702050a12131151471725aa01110x60a0111040a0272sys05ty87aB5xm1x6x1y5aa5dixq5a5krr1f3nBoxsz3y" ++
  "jb81118020u021c8ay581xe1bqy87yjcy96aBlx2da590xd0e9t2x01m0ey87020xc2102097a56020x502066aFlp" ++
  "6h0x92tyk1exicYrz5zf05aC4yObz3cxxgfm9zYr4O7CRoxqxS5Np6v0a3yh0a5u169y69a070l4jJfxqC5yrz4yb3" ++
  "xp6hxv5a2dB_o7xCmx8aET6407020F3e1s311d47IcyE3zb4d296a14zWvDq5Jkybxe1n8zkxrDm9x71ya7zgky6zp" ++
  "kbkbyn8pA6yl0y7021112140c01070y10418070s040501270Gk1F41Rue50fxyfv56Ck70h1702054xux01zfxd2e" ++
  "1a32Fvvgxq41KfxaClxb31Kv704020f0C51gx8yc3a32Ugy4ybxtC140r0201110a0401015131010103020111010" ++
  "10101020114070404010a0h43050hxj2Edxc3z4bf1f0f0x59Bexntcxc3962d6Ap-o3h2d2zn3yv5c31ec3xo7a5x" ++
  "87u1c32xtGkbe1d2a4xo6f1b596Aj0z6xw5xFT0vAxq5Cu1BQ2dDFhePeyJ1MuxL1AWb4Az0RTGfDgB_Mf"

/-- The property `Grapheme_Extend`. -/
def combiningRanges : CharRanges := CharRanges.decode <|
  "U0zfEj6E7xc10111110y8axgkg0z56252113x30uqyraxq890o3181214xb2xr8xan1vxn010474036a1t0xq01023" ++
  "8090a1q021xp041412230u130b1xp0441140k1m510xq011138072a1u0xr010c090x8030xn012521371b1t0xq02" ++
  "110321371b1s1xp110238090a1t0y8040221080yh026c7z2028b6y91r01010xnd14115a1x390z63151121p142g" ++
  "3d02160f0Rv2Zi3s2t1u1y0116802a90xd210zl1x20zm2419062Cr120xq0161010276920xguxh3xg942x68c1x0" ++
  "325xo0113014xo721Ao21c16406031C6xvMc0C3x0y_u2Ad0z0vNa5z91ZKk319x01yg1Eg03040p150An1qhd0x67" ++
  "pa10xc2xg0232120x40y352121c080xf0xj012215110xa180De02040PVg0T1fgfHe1Ot0D20Al4xQ621153x8240" ++
  "B51Nt3y14Ft1yf3y6axh3zr0xmex9021a2xh32170xt2x4417xu0c1xk8108320yv2236020At037l1xp11010c090" ++
  "e634y30251020124210e1yl72210n0yh02510201111Db0236111r1yl72011za01027z50102314E3811Dl0a340A" ++
  "g32140x09x8523809522xec11Im61510yil261111zq530111610y813010Gr1b1xk452n0BD506eHC8b32yK04xr6" ++
  "xwo0xv3yh0b1PBb1AP1xd2mMu4358726u3Ak2xZrxm4xh80e0m41exGg61g261114z40B06Hn0xt3Ls3Du1T06zd6U" ++
  "BSlyvA0Df"

/-- Whether a character has a form of its own on a page. -/
def isPrintable (c : Char) : Bool :=
  !(combiningRanges.has c.toNat || invisibleRanges.has c.toNat)

end Text

end DocumentModel
