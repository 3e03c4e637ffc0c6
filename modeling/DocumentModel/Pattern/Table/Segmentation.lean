import DocumentModel.Text.CharRanges

/-!
# Segmentation classes

The characters of each class by which text is cut into grapheme clusters, words and sentences, under
the normalized names of the class.
-/

namespace DocumentModel

namespace Pattern

/-- Grapheme cluster break classes: names and written ranges. -/
def graphemeBreakTable : List (List String × String) := [
  (["cn", "control"],
    "09111hyvx0d0xHe0ALh0x_s021o6xhfxTQf0DgbJxkfxyz03BCf7UHQ5vz0zvDgzMf"),
  (["cr"],
    "d0"),
  (["ex", "extend"],
    "U0zfEj6E7xc10111110y8axgkg0z56252113x30uqyraxq890o3181214xb2xs7xan1vxn010474036a1t0xq010" ++
    "238090a1q021xp041412230u130b1xp0441140k1m510xq011138072a1u0xr010c090x8030xn012521371b1t0" ++
    "xq02020305171b1s1xp110238090a1t0y8040221080yh026c7z2028b6y91r01010xnd14115a1x390z6315112" ++
    "1p142g3d02160f0Rv2Zi2t1u1u1y0116802a90xd210zl1x20zm2419062Cr120xq0161010276920xguxh3xg61" ++
    "050x88c1x032112xo0113012xq721Ao21c16406031C6xvMc0C3x0y_u2Ad0z0vNa5z91ZKk319x01yg1Eg03040" ++
    "p150An1qhd0x67paxe2xg02321x70y352121c080xf0xj012215110xa180De02040PVg0T1fgfHe1Ot0D20Al4x" ++
    "Q621153x8240B51Nt3I31yg2y6axh3zr0xmex9021a2xh32170xt2x4417xu0c1xk8a320yv220116020At037l1" ++
    "xp11010m0e634C372210n0yh02510201111Db0236111r1yl72011za0102510z522314E3811Dl0a11040Ag321" ++
    "40x09x8523809522xec11Im61510yil261111zq530111610y813010Gr1b1xk45010BDt06eJQq4xr6xwo0xv3y" ++
    "h0PBo1AP1xd2mMu012448726u3Ak2xZrxm4xh80e0m41exGg61g261114z40B06Hn0xt3Ls3_06zd6yRg4Uzx0yv" ++
    "A0Df"),
  (["l"],
    "AE0yvxCw0s"),
  (["lf"],
    "a0"),
  (["lv"],
    "xHw00r0r0r0r0r0r0r0r0r0r0r0r0r0r0r0r0r0r0r0r0r0r0r0r0r0r0r0r0r0r0r0r0r0r0r0r0r0r0r0r0r0r" ++
    "0r0r0r0r0r0r0r0r0r0r0r0r0r0r0r0r0r0r0r0r0r0r0r0r0r0r0r0r0r0r0r0r0r0r0r0r0r0r0r0r0r0r0r0r" ++
    "0r0r0r0r0r0r0r0r0r0r0r0r0r0r0r0r0r0r0r0r0r0r0r0r0r0r0r0r0r0r0r0r0r0r0r0r0r0r0r0r0r0r0r0r" ++
    "0r0r0r0r0r0r0r0r0r0r0r0r0r0r0r0r0r0r0r0r0r0r0r0r0r0r0r0r0r0r0r0r0r0r0r0r0r0r0r0r0r0r0r0r" ++
    "0r0r0r0r0r0r0r0r0r0r0r0r0r0r0r0r0r0r0r0r0r0r0r0r0r0r0r0r0r0r0r0r0r0r0r0r0r0r0r0r0r0r0r0r" ++
    "0r0r0r0r0r0r0r0r0r0r0r0r0r0r0r0r0r0r0r0r0r0r0r0r0r0r0r0r0r0r0r0r0r0r0r0r0r0r0r0r0r0r0r0r" ++
    "0r0r0r0r0r0r0r0r0r0r0r0r0r0r0r0r0r0r0r0r0r0r0r0r0r0r0r0r0r0r0r0r0r0r0r0r0r0r0r0r0r0r0r0r" ++
    "0r0r0r0r0r0r0r0r0r0r0r0r0r0r0r0r0r0r0r0r0r0r0r0r0r0r0r0r0r0r0r0r0r0r0r0r0r0r0r0r0r0r0r0r" ++
    "0r0r0r0r0r0r0r0r0r0r0r0r0r0r0r0r0r0r0r0r0r0r0r0r0r0r0r0r0r0r0r0r0r0r0r0r0r0r0r0r0r0r0r0r" ++
    "0r0r0r0r0"),
  (["lvt"],
    "xHw1q1q1q1q1q1q1q1q1q1q1q1q1q1q1q1q1q1q1q1q1q1q1q1q1q1q1q1q1q1q1q1q1q1q1q1q1q1q1q1q1q1q1" ++
    "q1q1q1q1q1q1q1q1q1q1q1q1q1q1q1q1q1q1q1q1q1q1q1q1q1q1q1q1q1q1q1q1q1q1q1q1q1q1q1q1q1q1q1q1" ++
    "q1q1q1q1q1q1q1q1q1q1q1q1q1q1q1q1q1q1q1q1q1q1q1q1q1q1q1q1q1q1q1q1q1q1q1q1q1q1q1q1q1q1q1q1" ++
    "q1q1q1q1q1q1q1q1q1q1q1q1q1q1q1q1q1q1q1q1q1q1q1q1q1q1q1q1q1q1q1q1q1q1q1q1q1q1q1q1q1q1q1q1" ++
    "q1q1q1q1q1q1q1q1q1q1q1q1q1q1q1q1q1q1q1q1q1q1q1q1q1q1q1q1q1q1q1q1q1q1q1q1q1q1q1q1q1q1q1q1" ++
    "q1q1q1q1q1q1q1q1q1q1q1q1q1q1q1q1q1q1q1q1q1q1q1q1q1q1q1q1q1q1q1q1q1q1q1q1q1q1q1q1q1q1q1q1" ++
    "q1q1q1q1q1q1q1q1q1q1q1q1q1q1q1q1q1q1q1q1q1q1q1q1q1q1q1q1q1q1q1q1q1q1q1q1q1q1q1q1q1q1q1q1" ++
    "q1q1q1q1q1q1q1q1q1q1q1q1q1q1q1q1q1q1q1q1q1q1q1q1q1q1q1q1q1q1q1q1q1q1q1q1q1q1q1q1q1q1q1q1" ++
    "q1q1q1q1q1q1q1q1q1q1q1q1q1q1q1q1q1q1q1q1q1q1q1q1q1q1q1q1q1q1q1q1q1q1q1q1q1q1q1q1q1q1q1q1" ++
    "q1q1q1q1q"),
  (["pp", "prepend"],
    "xM05Cn0xh0I01yg0xzb0ywXe0f0Dk1xXr010Do0y95Rs0Jr0"),
  (["sm", "spacingmark"],
    "yE30xn0228311xi1xr16121xm0xq2y20xq28011xl1xs06121zi0113212xk2xt3xt1xq011112111x70e1xr152" ++
    "12xl1yc166j1xv0zv0Aa1xv0Bh091p1xc0xQg0u0A107711Gq3224115D01xq010l5Ah0xm01411xt0u04120xs0" ++
    "221031xg781Bb0l0xyVb120yo1xifAe1xf0xg14122ze121o0At02150Dd1111110Vwj010zv0xd241zj0o1xr0x" ++
    "g291d0yt23110Ba2v1xr0132122k1Ch28130zb160111020De16320zh28110zd01160zf0E5290Do411402010A" ++
    "e28340yk0t1xu0In0e0za07020Cl44110Gu1c0xg18110Qwfxmz81UHk060"),
  (["t"],
    "AJ8ynxNKbxg"),
  (["v"],
    "AH0y7xNM8m"),
  (["zwj"],
    "Ewd0"),
  (["ri", "regionalindicator"],
    "zYL6p")]

/-- Word break classes: names and written ranges. -/
def wordBreakTable : List (List String × String) := [
  (["cr"],
    "d0"),
  (["dq", "doublequote"],
    "x20"),
  (["ex", "extendnumlet"],
    "yv0D-f0f1j0xTKu1o2Df0"),
  (["extend"],
    "U0zfEj6E7xc10111110y8axgkg0z56252113x30uqyraxq890o3181214xb2xs7xan1x0xm21h16a1t2xo016212" ++
    "290a1q022xo014412230u130b2xo0171212k1m512xo016212272a1u0xr4321390x84xn016121371b1t2xo016" ++
    "121371b1f0c3xn116121390a1t2y60451017i1xt026c7z2028b6y91r0101041xhj115a1x390z4jn342122633" ++
    "db10a3Rv2Zi3s2t1u1y0v90xd210zl1x20zmb4bCr4xp91s20xguxh4xfgx68c2ucxodxgjAo21k406022C6xvMc" ++
    "0C3x0y_u2Ad0z0vNa5z91ZKk319x01yg1Eg03040n440yj1xihqhd0x67pcxc3xfdx40y3dc081xd2xi01221511" ++
    "0x9451Dc711PVg0T1fgfHe1Ot0D20Al4xQ621153x8240B51Nt3I31yg2y6axh3zq2xlex9021a3xda70xt2x4dg" ++
    "1xc0c2xgd8311ysb6020Atbl3xn116212290a12634C0hn0yhjDb628r1yigzacz5eE0eDl511231011Ad62630s" ++
    "9x8613809axefIl717yil1dzq530111610y241114Gr39110xg634BDt06eJQq4xr6xwo01xm73yh0b1PBb1AP1x" ++
    "d2mMu4358726u3Ak2xZrxm4xh80e0m41exGg61g261114z40B06Hn0xt3Ls3_06zd6yRg4Uzx0yvA0Df"),
  (["fo", "format"],
    "Bd0xGi5m0C00xh0I01yg0zVb0x_v1q4xh419xTQf0Dp2AC10f0EX2fxyz03BCf7UHQ60"),
  (["hl", "hebrewletter"],
    "xKgq43xZFa0191c1410111119"),
  (["ka", "katakana"],
    "Ixh4z513yq13DgfCgxe1ynxPwexnxIyi3161110Ev2xi0e3"),
  (["le", "aletter"],
    "y1p6pxf0a0405m1u1Kv6x1zg41123106012101j1yi1Aa8B51x523101x810z80xcxax311z210f171a220g01tt" ++
    "yob0ox091405l409030no7a5n15hx9xqxl30i079ff47212l16103330g0d112e1a085412l16111111v310j2g8" ++
    "121l16111430i0f1n0b7212l16111430u112f0h015321331101131323bm0xk7121m1f30q22021u047121m191" ++
    "430v111f1h8121x820g05282o55h3n181026Fp0xv71x3r4Ejx510502xa1Gc132610132x8132x0132610132e1" ++
    "xo132y2x5fgyl253Pb2g1p5ya3a7hdiehec12Bfyo742x1105y5auD1mDexeh7xmtd1axbqx3x92ax3287xa22x9" ++
    "31511305Bvy0El252x525271010101u2xk1610321633254c5216zk0d0gcz5040291034601010131a235440hx" ++
    "8VdxjxUmD46331cx510502xn70gm9616161616161616yg0Kl0xl1C8xa1ythvXO0xAcy3xd2Ec3fa1kxegu2yfo" ++
    "C2511014of12131mtxjexhxu53011bramps7xes0xgx8n217Aka72c5252596161xp6zitGZ3cm4xgEU46c4xoz1" ++
    "x1Haixv2xlx8bzk41A6x4p6py5u35252522x3b1p1i111e2dx2zqy5xkEbs3xgxfvdt5x5at2x34714xaAtix34x" ++
    "34x78xjca1e16111a1e1611y3Fm9la7o51x918y55201xb11302mam9uy1i11alapy6xn61y00f3121sxas3sx37" ++
    "1rrxlalaidhzey8xnxidxidx3Gsx961yesa08lxahxekrmcxkxp120dxcx0oqx3t0208x230cxfe3l010x3h1oj1" ++
    "xv610131e197xex67212l16111430i0c4Auxki3k2uxfk110Boxex93x4xfk0xrxad0G7xbzkxvv72027111nf01" ++
    "0yu72x6g010s0ax770l0bxdj0iy8E781x4h0xhtzg6111x5l0p5111ve0G7if01c1x1zs0yfYpz6zehC3yOcz0fx" ++
    "xfh5zZpO6EJpNo7uhyehtixfg3vk5iRgxvA0ya50y2cy0110Pwsza5c3879BX6yk1y6112021231b10161y01327" ++
    "161r131410361Gj2o1o1u1o1u1o1u1o1u1o17xVku65E5xtAixca6g0G1tixbL4rTk613111e1C4xry370xBk31q" ++
    "1110201913101060401010121110201010101011102316131310191g52141gPkp6p6p"),
  (["lf"],
    "a0"),
  (["mb", "midnumlet"],
    "xe0D_91a0xTNd0Bk060"),
  (["ml", "midletter"],
    "xq0zs0Sf0Kn0Ak0CNi0xTLb0y10C40"),
  (["mn", "midnum"],
    "xc0e0W20Ma0A21yu0Ib0Cyb0xTKb030xr030Bn0e0"),
  (["nl", "newline"],
    "b1zo0DZ21"),
  (["nu", "numeric"],
    "xg9xN6910A49C69Is9zm9zm9zm9zm9zm9zm9zm9zm9zm9z09zm9y69Em9y69xW69x69Fc9A09B6969Bm9ym9A696" ++
    "9xyK69R69x69C69m9ym9Im9QUm9xI69yA69Vc9A09xs9Ag9Em9Gm9zm9Hm9z69z69J69z69Tm9Dm9y69J69OU69y" ++
    "m9A69XzkxhyG09J69Lm9xym9AQm9"),
  (["ri", "regionalindicator"],
    "zYL6p"),
  (["sq", "singlequote"],
    "x70"),
  (["wsegspace"],
    "x00BOv0yHv612yk0zZ00"),
  (["zwj"],
    "Ewd0")]

/-- Sentence break classes: names and written ranges. -/
def sentenceBreakTable : List (List String × String) := [
  (["at", "aterm"],
    "xe0D_l0xTNd0Br0"),
  (["cl", "close"],
    "x2042xh010t010xd0f0zPu3xWt1yHr7p1a1xm1e1Pp3t1xxg57dyf1v9Ijlxv3x01xw2de129o0i7Jb92712xPEu" ++
    "1Cn1sf21g5B91xh010t0101111xZUi2"),
  (["cr"],
    "d0"),
  (["ex", "extend"],
    "U0zfEj6E7xc10111110y8axgkg0z56252113x30uqyraxq890o3181214xb2xs7xan1x0xm21h16a1t2xo016212" ++
    "290a1q022xo014412230u130b2xo0171212k1m512xo016212272a1u0xr4321390x84xn016121371b1t2xo016" ++
    "121371b1f0c3xn116121390a1t2y60451017i1xt026c7z2028b6y91r0101041xhj115a1x390z4jn342122633" ++
    "db10a3Rv2Zi3s2t1u1y0v90xd210zl1x20zmb4bCr4xp91s20xguxh4xfgx68c2ucxodxgjAo21k406022C6xvMc" ++
    "1C2x0y_u2Ad0z0vNa5z91ZKk319x01yg1Eg03040n440yj1xihqhd0x67pcxc3xfdx40y3dc081xd2xi01221511" ++
    "0x9451Dc711PVg0T1fgfHe1Ot0D20Al4xQ621153x8240B51Nt3I31yg2y6axh3zq2xlex9021a3xda70xt2x4dg" ++
    "1xc0c2xgd8311ysb6020Atbl3xn116212290a12634C0hn0yhjDb628r1yigzacz5eE0eDl511231011Ad62630s" ++
    "9x8613809axefIl717yil1dzq530111610y241114Gr39110xg634BDt06eJQq4xr6xwo01xm73yh0b1PBb1AP1x" ++
    "d2mMu4358726u3Ak2xZrxm4xh80e0m41exGg61g261114z40B06Hn0xt3Ls3_06zd6UBSlyvA0Df"),
  (["fo", "format"],
    "Bd0xGi5m0C00xh0I01yg0zVb0x_s021q4xh419xTQf0Dp2AC10f0EX2fxyz03BCf7UHQ60"),
  (["le", "oletter"],
    "Jr043Cg0x466bq010A50L40zmq44xcxax311z210f171a220g01ttyob0ox091405l409030no7a5n15hx9xqxl3" ++
    "0i079ff47212l16103330g0d112e1a085412l16111111v310j2g8121l16111430i0f1n0b7212l16111430u11" ++
    "2f0h015321331101131323bm0xk7121m1f30q22021u047121m191430v111f1h8121x820g05282o55h3n18102" ++
    "6xqxf11c6xq110141n101911902410l3x00xv71x3r4zjxak0g5433031724cc0y1xa2Gb132610132x8132x013" ++
    "2610132e1xo132y2x5fzhPb2g1p5ya3a7hdiehec12fxjx3040y3yo742x1105y5auxht24bxb4pxmm9xkyi0ytx" ++
    "eh7xmtd1axbqx3x92ax3ixa22x93151130xxq3y7223yZ7xn70gm9616161616161616yg0Kl2p874244yl621yp" ++
    "135xa1ythvxgfM0CJvy0RQcy3xd2Ec3fa1y20g0x0yfx78z8060z703612131mtxjexhxu53011bramps7xes0g4" ++
    "19a41x8n217km303xh1031242010o22a72c525259616Ahx2tGZ3cm4xgEE4Hd2z9y30191c141011111zbx1Hai" ++
    "xv2xlx8bzk41A6z9xn2u35252522x3b1p1i111e2dx2zqy5xkEbs3xgxfvdt5x5at2x34714zqydz2x78xjAsFm9" ++
    "la7p1zt5201xb11302mam9uy1i11alapy6xn61y00f3121sxas3sx371rrxlalaidhzey8Bnx3Gsx961yesa08lx" ++
    "ahxekrmcxkxp120dxcx0oqx3t0208x230cxfe3l010x3h1oj1xv610131e197xex67212l16111430i0c4Auxki3" ++
    "k2uxfk110Boxex93x4xfk0xrxad0y7qx56BpxbCj72027111nf010yu72x6g010s0ax770l0bxdj0iy8E781x4h0" ++
    "xhtzg6111x5l0p5111ve0G7if01c1x1zs0yfYpz6zehC3yOcz0fxxfh5zZpO6EJpNo7uhyehtixfg3vk5iXgya50" ++
    "y2cy0110sB_n8xClxa8ET7316111F2f0t220e38IbyE4za5c3879EPg0Llxca6g0G1tixbL4rTk613111e1C4A60" ++
    "xBk31q1110201913101060401010121110201010101011102316131310191g52141gAG4xFSvx0Axp6Ct2BQ1e" ++
    "DFgzwvMtxL2AWa5Ayv"),
  (["lf"],
    "a0"),
  (["lo", "lower"],
    "z1pxf0a040x4n171010101010101010101010101010101010101010101010101010101110101010101010111" ++
    "0101010101010101010101010101010101010101010102010122010203140203220201010201110203010212" ++
    "2602020101010101010101110101010101010101120103010101010101010101010101010101010101010101" ++
    "01010101010101016202110401010101y41x371u4Ac0103023i0rx2113210101010101010101010101410202" ++
    "1xjxf10101010101010101010101010101010109010101010101010101010101010101010101010101010101" ++
    "0101020101010101011101010101010101010101010101010101010101010101010101010101010101010101" ++
    "010101010101010101010101010xgx8yXj0Tr5yA28znBvy10101010101010101010101010101010101010101" ++
    "0101010101010101010101010101010101010101010101010101010101010101010101010101010101010101" ++
    "0101010101010101010181010101010101010101010101010101010101010101010101010101010101010101" ++
    "010101010101010101010101010101885a78785a7878d2787878411603211832187a211zp0d0gczd03130r04" ++
    "040218340x1f40WbpxW6xf103110101040111730101010101010101010101010101010101010101010101010" ++
    "10101010101010101010101010101010101010101010101011701040cx51050-Ej0101010101010101010101" ++
    "01010101010101010101010j010101010101010101010101012A501010101010121010101010101010101010" ++
    "1010101010101010101010101010101010101019101020101010104010201210101010101010101010505010" ++
    "10101010101040106010101010o21012Vlxa1d6yfPW06c4xx9pxCdx7A8x3Ara1e1611K30221x918xE5xiy-dv" ++
    "RI0vVIqpq61hqpq310161aqpqpqpqpqpqpqpqpqrso15qo15qo15qo15qo1510xVk91j65E5xtyBkx1"),
  (["nu", "numeric"],
    "xg9xN6911A39C69Is9zm9zm9zm9zm9zm9zm9zm9zm9zm9z09zm9y69Em9y69xW69x69Fc9A09B6969Bm9ym9A696" ++
    "9xyK69R69x69C69m9ym9Im9QUm9xI69yA69Vc9A09xs9Ag9Em9Gm9zm9Hm9z69z69J69z69Tm9Dm9y69J69OU69y" ++
    "m9A69XzkxhyG09J69Lm9xym9AQm9"),
  (["sc", "scontinue"],
    "xc1c0xF20Be1La0Aw9050ywa1z_c0xPMe110t1t13020a0B81c0y90"),
  (["se", "sep"],
    "A50DZ21"),
  (["sp"],
    "9011j0zv0BKv0yHvax40xf0zZ00"),
  (["st", "sterm"],
    "x10t0xG90Aj2Bk0xb2Dm0xt01031F51xT41Um041U50C61Cc050Fq1H23Be121t1Bs1y11Zs192zL40d0m1Jd0ZD" ++
    "s0Ee1D3030Hu1ym1yv0Ao1Aj2Ag1Dp0QPa1B90t0y10yTk1xDt4xc3Bt1zl3zv2A1160g1yo111zc0J11Hl15ez9" ++
    "1Dp2M5010Dr1yn1J41Rk1ya1OV91A50y11b0Wj0PM60DL80"),
  (["up", "upper"],
    "y1pz5m16x1010101010101010101010101010101010101010101010101010101020101010101010102010101" ++
    "0101010101010101010101010101010101010101110103110111223111231111010111020111210113071111" ++
    "1101010101010101020101010101010101021101210101010101010101010101010101010101010101010101" ++
    "010101010107111201310101010F10103080601210111g18x30223010101010101010101010105020112xixg" ++
    "0101010101010101010101010101010109010101010101010101010101010101010101010101010101010101" ++
    "1101010101010201010101010101010101010101010101010101010101010101010101010101010101010101" ++
    "0101010101010101010102x5yW9x51050SiylyMa010101010101010101010101010101010101010101010101" ++
    "0101010101010101010101010101010101010101010101010101010101010101010101010101010101010101" ++
    "0101010101010901010101010101010101010101010101010101010101010101010101010101010101010101" ++
    "010101010101010101010109785a78785b010101087o7878784b4b3c4b4E5040322220346010101323a150qf" ++
    "j0VipxVgxfxg0122010101310208210101010101010101010101010101010101010101010101010101010101" ++
    "010101010101010101010101010101010101010801040-Gd0101010101010101010101010101010101010101" ++
    "01010j010101010101010101010101010A701010101010103010101010101010101010101010101010101010" ++
    "1010101010101010101010a01011101010104010201030101010101010101010141410101010101010131060" ++
    "5010s0RVbpxC5x7A8x3Asa1e1611xTaxiy_dvRI0vVJ0pqpqpq01120212317qpq1132716r113141036rpqpqpq" ++
    "pqpqpuox1ox1ox1ox1ox10AFlx1ywep6p6p")]

end Pattern

end DocumentModel
