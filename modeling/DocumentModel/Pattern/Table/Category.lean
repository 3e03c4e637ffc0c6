import DocumentModel.Text.CharRanges

/-!
# General categories

The characters of each Unicode general category, under the normalized names of the category.
-/

namespace DocumentModel

namespace Pattern

/-- The two-letter categories: names and written ranges. -/
def categoryTable : List (List String × String) := [
  (["lu", "uppercaseletter"],
    "y1pz5m16x1010101010101010101010101010101010101010101010101010101020101010101010102010101" ++
    "0101010101010101010101010101010101010101110103110111223111231111010111020111210113070202" ++
    "0201010101010101020101010101010101020201210101010101010101010101010101010101010101010101" ++
    "010101010107111201310101010F10103080601210111g18x30223010101010101010101010105020112xixg" ++
    "0101010101010101010101010101010109010101010101010101010101010101010101010101010101010101" ++
    "1101010101010201010101010101010101010101010101010101010101010101010101010101010101010101" ++
    "0101010101010101010102x5yW9x51050SiylyAj06xa22G00101010101010101010101010101010101010101" ++
    "0101010101010101010101010101010101010101010101010101010101010101010101010101010101010101" ++
    "0101010101010101010109010101010101010101010101010101010101010101010101010101010101010101" ++
    "01010101010101010101010101010109785a78785b010101087y83c3c3c4b3E6040322220346010101323a15" ++
    "0xt0yPsxfxg01220101013102082101010101010101010101010101010101010101010101010101010101010" ++
    "10101010101010101010101010101010101010801040-Gd01010101010101010101010101010101010101010" ++
    "1010j010101010101010101010101010A7010101010101030101010101010101010101010101010101010101" ++
    "010101010101010101010a010111010101040102010301010101010101010101414101010101010101310113" ++
    "050101010o0RVbpxC5x7A8x3Asa1e1611xTaxiAtlyVqvRI0vVJ0pqpqpq01120212317qpq1132716r11314103" ++
    "6rpqpqpqpqpqpuox1ox1ox1ox1ox10AFlx1"),
  (["ll", "lowercaseletter"],
    "z1pxq0x9n1710101010101010101010101010101010101010101010101010101011101010101010101110101" ++
    "0101010101010101010101010101010101010101020101220102031402032202010102011102030102122602" ++
    "0201010101010101011101010101010101011201030101010101010101010101010101010101010101010101" ++
    "0101010101016202110401010101y42pC10103032i0rx21132101010101010101010101014102021xjxf1010" ++
    "1010101010101010101010101010109010101010101010101010101010101010101010101010101010102010" ++
    "1010101011101010101010101010101010101010101010101010101010101010101010101010101010101010" ++
    "101010101010101010xgx8yW7xa22To5yA2810zlxbxvc1x1z601010101010101010101010101010101010101" ++
    "0101010101010101010101010101010101010101010101010101010101010101010101010101010101010101" ++
    "0101010101010101010101810101010101010101010101010101010101010101010101010101010101010101" ++
    "01010101010101010101010101010101885a78785a7878d2787878411603211832187a211Ei03130r0404021" ++
    "8340xl0yRbxf1031101010401115501010101010101010101010101010101010101010101010101010101010" ++
    "1010101010101010101010101010101010101011701040cx51050-Ej01010101010101010101010101010101" ++
    "0101010101010j010101010101010101010101010A7010101010101210101010101010101010101010101010" ++
    "1010101010101010101010101010101710102010101010401020121010101010101010101050501010101010" ++
    "1010401020301010101010q030Vlxa587yfPW06c4xx9pxCdx7A8x3Ara1e1611xU3xiztlyVqvRI0vVIqpq61hq" ++
    "pq310161aqpqpqpqpqpqpqpqpqrso15qo15qo15qo15qo1510xVk91j65yLnx1"),
  (["lt", "titlecaseletter"],
    "K502020x60DIl78787c0f0xf0"),
  (["lm", "modifierletter"],
    "Rgh4be47010A5050Ku0D60B41Ed140v09030B00B70xCk0zv0Nl0xSq0zb0P30Kg5Bexud0x2x4Rh0d0gcy-v1Dh" ++
    "0Bv0Kl0xb450z11yt2XUm0xD25Ee0zi0s1zp8yg0n0z9231Kl0m0A90zc0l1z7390Rw60xd1x_051x918xIj0x00" ++
    "TKg3Ls2x81N6cy0110Mwc31611IxhxtC96Zd0xyv0"),
  (["lo", "otherletter"],
    "Ba0f0E0043Cg1Vqq43xdv19x311z210o1a220g01ttyob0ox0llxao7a5n15hx8xrxl30i079ge47212l1610333" ++
    "0g0d112e1a085412l16111111v310j2g8121l16111430i0f1n0b7212l16111430u112f0h0153213311011313" ++
    "23bm0xk7121m1f30q22021u047121m191430v111f1h8121x820g05282o55h3n181026xqxf11c5xr110141n10" ++
    "19119024n3x00xv71x3r4zjxak0g5433031724cc0zhG8132610132x8132x0132610132e1xo132y2x5fzhPb2g" ++
    "1p5ya677hdiehec12fxjx80y3x21xk742x1105y5auxht24bxb4pxmm9xkBgxeh7xmtd1axbqx3x92atzh315113" ++
    "0xxq3y_nxnom9616161616161616N70xl04yl801yp405xa1ythvxgfM0CJvy0QMk1xzmy3x78Eb4fa1y20xhy5B" ++
    "90z703612131mtxjexhxu53011bramps7xexd428a41x8n217kf15303xh1031242010o13a70e525259616Ahx2" ++
    "tGZ3cm4xgEE4Hd2z9y30191c141011111zbx1Haixv2xlx8bzk41A6z991xc2u35252522x3b1p1i111e2dx2zqI" ++
    "5s3xgxfvdj176x5at2x347A0ydz2x78xjysxjcFm9la7Ao5201xb11302mam9uy1i11alapy6xn61y00f3121sxa" ++
    "s3sx371rrxlalaidhzey8Bnx3x6310Fgx961g2xrsa08lxahxekrmcxkxp120dxcx0oqx3t0208x230cxfe3l010" ++
    "x3h1oj1xv610131e197xex67212l16111430i0c4u910201x510p010xcxki3k2uxfk110Boxex93x4xfk0xrxad" ++
    "0y7qx56BpxbCj72027111nf010yu72x6g010s0ax770l0bxdj0iy8C7x0v81x4h0xhtzg6111x5l0p5111ve0G7i" ++
    "f01c1x1zs0yfYpD6C3yOcz0fxxfh5pzYq5O6CRptxT2No7uhyehtixfxjk5iJjx7Ilya50BfB_n8xClx99ETnF2f" ++
    "0t220e38IbyE4za5c3879EPg0Llxcx10G1tixbL4qD5t20Lf613111e1C4xFr31q111020191310106040101012" ++
    "1110201010101011102316131310191g52141gAG4xFSvx0Axp6Ct2BQ1eDFgfPdyJ2MtxL2AWa5Ayv"),
  (["mn", "nonspacingmark"],
    "U0zfEj4E9xc10111110y8axgkg0z56252113x30uqyraxq890o3181214xb2xr8xan1vxn010474036a1t0xq043" ++
    "80k1q021xp041412230u130b1xp0441140k1m510xq020138071b1u0xt0c0xi030xn012521371b1t0xq020605" ++
    "1k1s1xp14380k1t0y807210yq026c7z2028b6y91r01010xnd14115a1x390z63151121p142g3d02160f0Rv2Zi" ++
    "2t1u1u1y0116802a90xd210zl1x20zm2419062Cr120xq0161010276920xgd1fxh3xg0141050x88c1x032112x" ++
    "o0113012xq721Ao21c16406031C6xvSgc403by_u2Ad0z0vNa3zb1ZKk049x01yg1Eg03040p150An1qhd0x67pa" ++
    "xe2xg02321x70y352121c080xf0xj012215110xa180De02040PVg0T1fgf-d0D20Al4xQ621153x8240B51Nt3y" ++
    "14Ft1yf3y6axh3zr0xmex9021a2xh32170xt2x4417xu0c1xk8a320yv220116020At037l1xp130x5634y65d01" ++
    "010e1yl72210n0yk5104111De36111r1yl72011za0102510z50102314E3811E011040Ag32140x09x85238095" ++
    "22xec11Im61510yil261111zq530111610y813010Gr1b1xk45010n0BD506eHC8b32yK04xr6xwo0xv3yh0PBo1" ++
    "AP1xd2mN02h726u3Ak2xZrxm4xh80e0m41exGg61g261114z40B06Hn0xt3Ls3Du1T06zd6UBZlDf"),
  (["mc", "spacingmark"],
    "yE30xn0228311xi1xq26121a0xb0xq2y20xq28011xl1xq0106121a0z61113212a0x92xt3xt1xq014211191s0" ++
    "e1xq25212a0xa1yb267i1Ga1xv0Bb1406021p1a226l12520a2xPo0u0A107711Gq3224115D01xq010901185Ah" ++
    "0xg0501411xt0u04120xs0221031xg781Bb0l0AVm1Z_j120yo1xifAe1xf0xg14122ze121o0xd010zd02150Dd" ++
    "1111110Vwj010zv0xd241zj0o1xr0xg291d0yt23110Ba2v1xq113212290a1yk27020131110z528130za26013" ++
    "20Dd26320zh28110zd01160z701140E5290Dn511402010Ae28340yk0t1xu0In0e0za07020Cl44110Gu1c0xg1" ++
    "8110ML82zN4xmz81UHj165"),
  (["me", "enclosingmark"],
    "xA81BNk0xMu312xxIb2"),
  (["nd", "decimalnumber", "digit"],
    "xg9xN69A69C69Is9zm9zm9zm9zm9zm9zm9zm9zm9zm9z09zm9y69Em9y69xW69x69Fc9A09B6969Bm9ym9A6969x" ++
    "yK69R69x69C69m9ym9Im9QUm9xI69yA6969Us9A09xs9Ag9Em9Gm9zm9Hm9z696jyc9J69z69Qm9ym9Dm9y69J69" ++
    "MKm9yF69ym9A69Mm9TXm9ySkxhyG09J69Lm9Dn9Wl9AQm9"),
  (["nl", "letternumber"],
    "BTe2yPfx223zPu0p8e2ZRb9SOgxkKc080A64Exaze"),
  (["no", "othernumber"],
    "Bi15022yFl5Ho5zo2A56Cp6h8Jh9xxljxzj9L00xQl03569C6fx90SmxryelPmtxH90xAk3Aa9u71ex09x7eZHg5" ++
    "SChxcy13h1Glqx43xFk7p6x78yb4m5B012f2xdy08xk1u2yb4z87o7x96Ga5H0uAu9xa3zg6A6jHrjxG51Je8X7i" ++
    "WjkOY66UumVx9jcjzcoBGe8Z1xq1213ycxc1e-2c"),
  (["pc", "connectorpunctuation"],
    "yv0D-v1j0xTKu1o2Df0"),
  (["pd", "dashpunctuation"],
    "xd0xGs0xj0zO10xw50yw95zM1020v140s0Ju0j0zf0xPIg1x50a0B90zP00Fu0"),
  (["ps", "openpunctuation"],
    "x80xi0v0zRu010xWu0yHu030x60xn0f0Pq010u0xxu0101010101010yg0x0010101010Ik01010101010101010" ++
    "1010y0010x10xx50101010p0i0101010Jc0101010103010101020xPF10Cn0t01010101010101030h01010Ba0" ++
    "xi0v03020"),
  (["pe", "closepunctuation"],
    "x90xj0v0zRt010xWu0yJ90xn0f0Pq010u0xxu0101010101010yg0x0010101010Ik010101010101010101010y" ++
    "0010x10xx50101010xc0101010Jc0101010103010101021xPEu0Cp0t01010101010101030h01010Ba0xj0v02" ++
    "020"),
  (["pi", "initialpunctuation"],
    "Bb0DXc02120p0zK80104020f030"),
  (["pf", "finalpunctuation"],
    "Br0DWt030s0zK80104020f030"),
  (["po", "otherpunctuation"],
    "x1212201011a131r0y4050e170Ru080Ki5x90xm02020xc1k111d012ya3z60xbdD92xmev0E51a0Ac0zo0zp0I6" ++
    "0c0Hf0yq0a1B8e10zg0ya441zf5Bb0P48U50zs2y71At212x5513Fp1Co1A0615B01a6s2zs3xr4xu1y07b0W218" ++
    "78823223a1019zAq311zg0Af1422028111021a41923101c22Jc2xp0Bt0Zw21Ed2z30a0zj5Hs3ym1x8210xh1x" ++
    "f0z1cg1zs3zu1g1Dp0QN4620m0k1233213726011Al212201011a131r0x4021Iq2Qs0xg0Iu0T70C70v0Eg8x60" ++
    "zg6y26yp3Zo4xc3Bt6zd113zu3xg1yf340d012yo5zb0Fa111zi4a110z80Dqmz92scyc0A22Ds0E82Ar0ys7yj2" ++
    "14yt9Cn0yv4xa1Q51yacBf0xzg4yXs1KPr1A50y1480N82F73G70PBs0DL74yXj0Wu1"),
  (["sm", "mathsymbol"],
    "xb0g2xt010xd040x50v0Tu0Mf2CNr0d0x72d2Ab0x7460y445140202070v12010vEbx01yq0uox85Kl090xm7zf" ++
    "0Gg42uafE0A2mxu4v2E1xgk25xP-s0Vo012B40g2xt010A3063zJ11xOFh0p0v0p0v0p0v0p0v0p0BVc1"),
  (["sc", "currencysymbol"],
    "x40zt3xD90zr0Li1Li170Dl0E70O50yIr0yC4x0xxXn0RK30zc0Aq0Cr131D_m3xMUu0yJg0"),
  (["sk", "modifiersymbol"],
    "yu010y70604030M93cd56101gzl0e1xE20BVk012b2d2d2d1AAs1ZP3m91z71-g0e1Qy6gXr010B20xZwn4"),
  (["so", "othersymbol"],
    "B60204010-h0Ea1zv1Ce0a0j1Dn0M30Hl0A2510A40Cf0x90I72f01225k01010A57151153C51Tg9Sj0Si0Atx1" ++
    "H1998xI311311a0116510101040b1e01110xq194231111161u21101uEc74j262yg1tpx76y7mayhydmBm181xl" ++
    "8ze1Dnxcxby0DvM0xfl16x62v1z8D55H51xep1yocClqf40d1c0l161Gg149x0x590gubt80fvax6fFvCK0xvRQg" ++
    "xmX13a110Nt2QS6fzv0xd2L403041d1Fp8xpg221c30xfxcxPq1Of0zzm0yAl74gOWa350QGm0zX3DfgJjAszjxs" ++
    "Dlax62xr52m17t4xsly130BqymxB9Lvxn3xi71d11xS80yWs0A10Shxb4z3ce2e1e1x4nB0xosdxb4871e5AqDq5" ++
    "Sn4g3c3zm4yu6b40fb4xn896x78t2b41xuGjcd2c395xn7e2a687Ai1yr"),
  (["zs", "spaceseparator"],
    "x00zv0BKv0yHvax40xf0zZ00"),
  (["zl", "lineseparator"],
    "Ex80"),
  (["zp", "paragraphseparator"],
    "Ex90"),
  (["cc", "control", "cntrl"],
    "0vyvx0"),
  (["cf", "format"],
    "Bd0xGi5m0C00xh0I01yg0zVb0x_s4q4xh419xTQf0Dp2AC10f0EX2fxyz03BCf7UHQ60uyv"),
  (["cs", "surrogate"],
    "xSw0x_v"),
  (["co", "privateuse"],
    "xUw0CDvYxU0x__t2x__t"),
  (["cn", "unassigned"],
    "Xo1637010k0Id0x61xi130xn7r36aEe0xs1z5dxr1xh1f0s110b4v024Dd08121m0701241912147132051p1306" ++
    "321m07020202110532132164016h9309030m0702051a030311e41c670308121m0702051912136332051i9206" ++
    "230422010222232c3523041151dl4d030n0g190304620311141a6m030n0a051903046252041a03bd030xj030" ++
    "63g1q030i2o090117213601085a13bxq3tx4201050o010n1501070a14vy80x43x70x40f0dx4C601411Hp0417" ++
    "01041x9041x1041701041f0xp041y31x02q5ym161Qt2yp6m8o8kbd0302byu1a5a5q5yp6xb4y69v0c3c312xa1" ++
    "5axc3q5b2xu1y10t1b5a5e1vxgyd0B67xs2f2xu4xb1b7xb4Mm161x616180101010v1xl0f0e160j13090z50c1" ++
    "r0d2x1ex1eAc3QqlbkxUk1x00Gt4xd01411xo62do87070707070707070zux1q0ypbCmpyg0ym1z74xb0yu0ym8" ++
    "xg0YPd2xn8GsjBo7Ce120108kxr2a5xo7y67c5zkau2ye0b3x10xn8e1a1z7ns96161687070xs3zu1a5GZ4bn3x" ++
    "h3EPe1zax57b54q050102020ztfJt1xm61vxa5xj0j04350A7110Bu261616132707951c0q0j020f1ex1zr433x" ++
    "d2yo0d21xexeA1t2xhes3x48u4xb4u0x53ex9Au1a5x43x43x87xkac0f07020b0f07022xkbFn8m98n60xa09y4" ++
    "6110xc02211n0y879xfj024x12r41xvxo3k1xi0248030t133a696y0vx73c8xm2t1r4q64b7yfy9xmxjcxj6xe7" ++
    "a5x62t72Cfv0xa0312f3xmxc7xalqx5sjn8ye3x48y4911p6a5xl0i7x78z00kai0xfxt701040f0b5xr4a54081" ++
    "21m0702050a12131151471725aa01110x60a0111040a0272sys05ty87aB5xm1x6x1y5aa5dixq5a5krr1f3nBo" ++
    "xsz3yjb81118020u021c8ay581xe1bqy87yjcy96aBlx2da590xd0e9t2x01m0ey87020xc2102097a56020x502" ++
    "066aFlp6h0x92tyk1exicYrz5zf05aC4yObz3cxym9zYr4O7CRoxqxS5Np6v0a3yh0a5u169y69a070l4jJfxqC5" ++
    "yrz4yb3xp6hxv5a2dB_o7xCmx8aET6407020F3e1s311d47IcyE3zb4d296a18zWrDq5Jkybxe1n8zkxrDm9x71C" ++
    "2ky6zpkbkbyn8pA6yl0y7021112140c01070y10418070s040501270Gk1F41Rue50fxyfv56Ck70h1702054xux" ++
    "01zfxd2e1a32Fvvgxq41KfxaClxb31Kv704020f0C51gx8yc3a32Ugy4ybxtC140r0201110a040101513101010" ++
    "302011101010101020114070404010a0h43050hxj2Edxc3z4bf1f0f0x59Bexntcxc3962d6Ap-o3h2d2zn3yv5" ++
    "c31ec3xo7a5x87u1c32xtGkbe1d2a4xo6f1b596Aj0z6xw5xFT0vAxq5Cu1BQ2dDFhePeyJ1MuxL1AWb4Az0RTyg" ++
    "1tz0zvDgx_Mfx__u1x__u1")]

end Pattern

end DocumentModel
