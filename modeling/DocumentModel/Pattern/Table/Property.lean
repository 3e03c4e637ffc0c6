import DocumentModel.Text.CharRanges

/-!
# Binary properties

The characters with each Unicode property that a character has or has not, under the normalized
names of the property.
-/

namespace DocumentModel

namespace Pattern

/-- The properties: names and written ranges. -/
def propertyTable : List (List String × String) := [
  (["ahex", "asciihexdigit"],
    "xg975q5"),
  (["alpha", "alphabetic"],
    "y1p6pxf0a0405m1u1K94be47010ym0th1123106012101j1yi1Aa8B51x5206x8x7d101111108q43ta5xn16ez5" ++
    "174742a220gxfdz4ox091405n2ijo7a5n15808x9ab366yb1f124edi17212l16103337212110804114c1a0421" ++
    "5412l16111111444121407310h5b218121l16111438121130f3l34217212l161114372121914114d0g115321" ++
    "331101131323b4432123060x8c121m1f37121281122023s317121m1914371212816113d2cc121x8271212105" ++
    "374m5121h3n181026851017i1dxp5660xj110141n101i12241060e3x00xv71x34i4f1x3y3xm1024gxva32x51" ++
    "0502xa1Gc132610132x8132x0132610132e1xo132y2x5fgyl253Pb2g1p5ya3a7jbkcjcc1211cxj2ie040y3yo" ++
    "7xa5y5au1b48nt24bxb4pxmr4xu2jxi0n1b2xhxj1e17xjx923axb1aexmm2ax32a5xa22x931511305Bvjx1bEl" ++
    "252x525271010101u2xk1610321633254c5216zk0d0gcz5040291034601010131a235440hx8VdxjxUmD46331" ++
    "cx510502xn70gm96161616161616161vxf0Kl2p874244yl621yp135xa1ythvxgfM0CJvy0RQcy3xd2Ec3fa1kx" ++
    "e573zgx782z62y2211017lj1x0oxjcy310xc53012ax05x2ds3xi1bf0gfa41xm9dim3y41010o22f23b5252596" ++
    "161xa1d6zqlGZ3cm4xgEE4Hd2z9x66c45b1c141011111zbx1Haixv2xlx8bzk41A6x4p6pbyo35252522x3b1p1" ++
    "i111e2dx2zqy5xkEbs3xgxfvdt5xa5t2x34714xaAtix34x34x78xjca1e16111a1e16113xjcFm9la7o51x918y" ++
    "55201xb11302mam9uy1i11alapy6xn61y031157121sxas3sx371rrxlalaidhzey8xnxidxidx7x2r305mDqx91" ++
    "131g2xn03sa08lxahxekrm9y5xb4axo90donxih38x2309xv1391a010x3h1x12063xu610131e197xon317212l" ++
    "161114372121306056s910201x519102013113010xcy11213k2uy12110Boxl26p5x2xu1030xrxl20y7q2dl6B" ++
    "pxoz7xvv72027111t112123yt72xd251011rxi29hy750iy8C7x0v81xc1610xht2l1dy96111xb3011121021o5" ++
    "111x4111310G7m9g1x832zf0yfYpz6zehC3yOcz0fxxfh5pzYq5O6CRpxexShNo7uhyehtixfg3vk5iJgxcCjxvA" ++
    "0ya4xo7gy0110c1eB_n8xClx99ET7316111F2f0t220e38IbyE4za5c387940BX1yk1y6112021231b10161y013" ++
    "27161r131410361Gj2o1o1u1o1u1o1u1o1u1o17xVku65Cl61g2611145xtx10zgxca6g0G1tixbL4rD4t20Lf61" ++
    "3111e1C4xry33030xBk31q1110201913101060401010121110201010101011102316131310191g52141gPkp6" ++
    "p6pzPmxFSvx0Axp6Ct2BQ1eDFgfPdyJ2MtxL2AWa5Ayv"),
  (["bidic", "bidicontrol"],
    "xMs0CLh1q4xn3"),
  (["bidim", "bidimirrored"],
    "x81i010s010t010xd0f0zPu3xWt1yIs1a1xm1e1Bh0C033530313313101048501h539110171v2350912i51942" ++
    "14n2f83k171xxtdya023111253523dIjl251d807530441124401221a521ci13201020135162o1b14311214xa" ++
    "271x750103452403410E00M333111e129xb7Jb927xPNt551B21i010s010t0101111xRXn0xp0xp0xp0xp0"),
  (["ci", "caseignorable"],
    "x7060b0x3010y7040104021LnBv41409110Dr6Cf050xhxc10111110xc0b5aa10x30akg0z571913x1010uqyra" ++
    "xqa4020onxb2xc07158x9xpxn010474036a1d0f0xq04380k1q021xp041412230u130b1xp0441140k1m510xq0" ++
    "20138071b1u0xt0c0xi030xn012521371b1t0xq0206051k1s1xp14380k1t0y807210yq026b8z20289016y91r" ++
    "01010xnd14115a1x390z63151121p142g3d02160f0yu0P02Zi2t1u1u1y0116802a3050xd4xj0y11x20zm2419" ++
    "062Cr120xq0161010276920x708uxh3xg0141050x88c1x032112xo0113012xq721y05yi21c16406031xixud0" ++
    "x2z4Jt012b2d2d2d1c481a02024xh41910d0gcxjx0yYb1zh2zt0f0z0vxf0Kl0x433450yt5yt2XUm0xD25Ee0z" ++
    "231910s3yg1ex1ye0n2z7231803040p150An1qhd0x67paxe2xg02321h0l1y252121c080x30b0xj012215110r" ++
    "0e15110z4492zp02040PVg0AjgNtf30cfx2020B907060b0x3010xf0xd1y30l2M10D20Al4xw551x918O621153" ++
    "x8240B51Nt3x60q410Fr1yf3y6axh3zr0xmex9021a2xh3212040a0xi2x4417xu0c1xk8a320yv220116020At0" ++
    "37l1xp130x5634y65d01010e1yl72210n0yk5104111De36111r1yl72011za0102510z50102314E3811E01104" ++
    "0Ag32140x09x8523809522xec11Im61510yil261111zq530111610y813010Gr1b1xk45010n0BClg6eHC8b32y" ++
    "K04xr693Ls2x81L20xvgy0111Mwb31611zAu113AOsxd2mN029f26u3Ak2xZrxm4xh80e0m41exGg61g2611145x" ++
    "tx10B0dHg0xt3Lr4Du1T06zd7yRf4Uzw10uyvA0Df"),
  (["cased"],
    "y1p6pxf0a0405m1u1C2134Cf2x271u4z00xa32123106012101j1yi1Aa8B51x59x8yUnx510502xa13R0yl25yA" ++
    "2a5xa22y0Bvy0El252x525271010101u2xk1610321633254c5216zk0d0gcz504029103460101013154023544" ++
    "0hv31VhxjxUmD46331cx51050-EixditA4z5331xt211017l412Vlxa1d6yfPW06c4xw9p6pxB5yfz0x34x3zka1" ++
    "e16111a1e1611K30221x918xC5xidxiytlalyUqxvRH0xvVI0yk1y6112021231b10161y01327161r131410361" ++
    "Gj2o1o1u1o1u1o1u1o1u1o17xVk91j65E5xtyAiy3x_cp6p6p"),
  (["cwcf", "changeswhencasefolded"],
    "y1pyq0am17x00101010101010101010101010101010101010101010101010101010201010101010101011101" ++
    "0101010101010101010101010101010101010101011101010111011122311123111101011102011121011307" ++
    "1111110101010101010102010101010101010102110121010101010101010101010101010101010101010101" ++
    "0101010101010107111201310101010Dm0xa0103080601210111g18m0c231101010101010101010101010112" ++
    "110112xixg010101010101010101010101010101010901010101010101010101010101010101010101010101" ++
    "0101010101110101010101020101010101010101010101010101010101010101010101010101010101010101" ++
    "01010101010101010101010101010102x5xg0yUox51050Va5yA296xa22G00101010101010101010101010101" ++
    "0101010101010101010101010101010101010101010101010101010101010101010101010101010101010101" ++
    "0101010101010101010101010101010105120101010101010101010101010101010101010101010101010101" ++
    "0101010101010101010101010101010101010101010109785a78785b010101087gxf22255225b3c45225F903" ++
    "160xdfj0VipxVgxfxg0122010101310208210101010101010101010101010101010101010101010101010101" ++
    "010101010101010101010101010101010101010101010801040-Gd0101010101010101010101010101010101" ++
    "01010101010j010101010101010101010101010A701010101010103010101010101010101010101010101010" ++
    "1010101010101010101010101010a01011101010104010201030101010101010101010141410101010101010" ++
    "1310113050101010o0XqyfPW06c4xw9pxC5x7A8x3Asa1e1611xTaxiAtlyVqvRI0v-R0x1"),
  (["cwcm", "changeswhencasemapped"],
    "y1p6pxq0am1u1xv1yj1r2d21104ys1h6q1110113113142011207020113550a1B60xa32132106012101j1xe3x" ++
    "0141A48B51x5ax6yUox510502xa22R0yl25yA2a5xa22Bp030g0zhAr201zl252x525271010101u2xk16103216" ++
    "33254c5216F903160r0hv31VhxjxUmzg11117z57331cx51050-EixdirA6d2xt9e32241o1t211017o1Ws0syfP" ++
    "W06c4xw9p6pxB5yfz0x34x3zka1e16111a1e1611xS3xidxiytlalyUqxvRH0xv-Q0y3"),
  (["cwl", "changeswhenlowercased"],
    "y1pz5m16x1010101010101010101010101010101010101010101010101010101020101010101010102010101" ++
    "0101010101010101010101010101010101010101110103110111223111231111010111020111210113071111" ++
    "1101010101010101020101010101010101021101210101010101010101010101010101010101010101010101" ++
    "010101010107111201310101010F10103080601210111g18x308010101010101010101010105020112xixg01" ++
    "0101010101010101010101010101010901010101010101010101010101010101010101010101010101010111" ++
    "0101010101020101010101010101010101010101010101010101010101010101010101010101010101010101" ++
    "01010101010101010102x5yW9x51050SiylyAj06xa22G0010101010101010101010101010101010101010101" ++
    "0101010101010101010101010101010101010101010101010101010101010101010101010101010101010101" ++
    "0101010101010101010901010101010101010101010101010101010101010101010101010101010101010101" ++
    "010101010101010101010101010109785a78785b010101087o7878784b4b3c4b4F903160xdfj0VipxVgxfxg0" ++
    "1220101013102082101010101010101010101010101010101010101010101010101010101010101010101010" ++
    "10101010101010101010101010801040-Gd010101010101010101010101010101010101010101010j0101010" ++
    "10101010101010101010A7010101010101030101010101010101010101010101010101010101010101010101" ++
    "010101010a010111010101040102010301010101010101010101414101010101010101310113050101010o0R" ++
    "VbpxC5x7A8x3Asa1e1611xTaxiAtlyVqvRI0v-R0x1"),
  (["cwt", "changeswhentitlecased"],
    "z1pxq0x9n1710101010101010101010101010101010101010101010101010101010201010101010101110101" ++
    "0101010101010101010101010101010101010101020101220102030502032202010102040203010203010401" ++
    "1111010101010101010111010101010101010121010301010101010101010101010101010101010101030101" ++
    "010101010101080211040101010151110113113142011207020113550a1B60xb0103032i0rx2113210101010" ++
    "1010101010101014102020xkxf10101010101010101010101010101010109010101010101010101010101010" ++
    "1010101010101010101010101020101010101011101010101010101010101010101010101010101010101010" ++
    "101010101010101010101010101010101010101010101010xhx6zPg5yA2810De030g0zi01010101010101010" ++
    "1010101010101010101010101010101010101010101010101010101010101010101010101010101010101010" ++
    "1010101010101010101010101010101010101010101650101010101010101010101010101010101010101010" ++
    "101010101010101010101010101010101010101010101010101885a78785a7878d2787878411603211832187" ++
    "a211Gm0x1f40WbpxW6xf10311010106020a01010101010101010101010101010101010101010101010101010" ++
    "1010101010101010101010101010101010101010101010801040cx51050-Ej01010101010101010101010101" ++
    "0101010101010101010j010101010101010101010101010A7010101010101030101010101010101010101010" ++
    "101010101010101010101010101010101010a010201010101040401120101010101010101010b01010101010" ++
    "1010401020301010101010q0Ws0syfPW06c4xx9pxCdx7A8x3Ara1e1611xU3xiztlyVqvRI0v-R2x1"),
  (["cwu", "changeswhenuppercased"],
    "z1pxq0x9n1710101010101010101010101010101010101010101010101010101010201010101010101110101" ++
    "0101010101010101010101010101010101010101020101220102030502032202010102040203010203010511" ++
    "1111010101010101011101010101010101011111030101010101010101010101010101010101010103010101" ++
    "0101010101080211040101010151110113113142011207020113550a1B60xb0103032i0rx211321010101010" ++
    "10101010101014102020xkxf1010101010101010101010101010101010901010101010101010101010101010" ++
    "1010101010101010101010102010101010101110101010101010101010101010101010101010101010101010" ++
    "1010101010101010101010101010101010101010101010xhx6yW8xa22To5yA2810De030g0zi0101010101010" ++
    "1010101010101010101010101010101010101010101010101010101010101010101010101010101010101010" ++
    "1010101010101010101010101010101010101010101010165010101010101010101010101010101010101010" ++
    "1010101010101010101010101010101010101010101010101010101885a78785a7878d2xk114010321140332" ++
    "187a21140Gh0x1f40WbpxW6xf10311010106020a010101010101010101010101010101010101010101010101" ++
    "010101010101010101010101010101010101010101010101010801040cx51050-Ej010101010101010101010" ++
    "101010101010101010101010j010101010101010101010101010A70101010101010301010101010101010101" ++
    "01010101010101010101010101010101010101010a010201010101040401120101010101010101010b010101" ++
    "010101010401020301010101010q0Ws0syfPW06c4xx9pxCdx7A8x3Ara1e1611xU3xiztlyVqvRI0v-R2x1"),
  (["dash"],
    "xd0xGs0xj0zO10xw50yw95xt0x70f0I60zw4020v140s0Ju0j0zf0xPIg1x50a0B90zP00Fu0"),
  (["di", "defaultignorablecodepoint"],
    "Bd0R10Sc0yW21xOj1yl4x_r4q4xhfADk0xPArfDf0B00yf8xLB73BCf7UHQ5z_v"),
  (["dep", "deprecated"],
    "G90xF90yE3010yx91yC55Rp1XTCm0"),
  (["dia", "diacritic"],
    "yu010y70604021LnAu1755h14091Dt4Ch0xnxc10111110A3741A614132y3qyraxqax21zu7x99grxt0g033s0y" ++
    "a0g0ze0g0ze0g0xf2xs0g070zn0ze0g0ze0g0zd1g0zs0zf0c510zb0d4yb1r0101041y2211xu0zg011x8144p6" ++
    "10a1S12Zk1u0Aka90Gr2F40k720xge2az80f0x68xm1xq0b1y21y05yio406022xixuxgx35bx5aJt012b2d2d2d" ++
    "1zDg2Ft0Lq5z93yv0ZHi0c110s1yi1ex1z62zd1c0x50An0rhxp3x40yv0c0x40Al2y13xj0z4492A01PVg0U1fE" ++
    "e010xf0xd1y30Ts0xAv51x918Pt240B51Nr5x60q4If2y6axh3C00x90y81zo1xu0yc092z81Bi1yg1g0o634yp2" ++
    "11d1yv030zr1Dr1zu0zm1zj0Ed1E2140As0yj0i0yh0J50E2011yh0J91n0BDceHCp0yK04xr6Nk1N2gyg1L_u31" ++
    "611DU1xd2mN02358726u3zQ2xtC26Hn0xt3Tu1T06zd212"),
  (["emoji"],
    "x306059zf040DYd0c0Co0m0yq5f1Hf1c0B60pa42C70D71a090xq314902021204020112030318250105bb1201" ++
    "110i021i5101131502141b15120511011k155132040202510201010603060a1f02040104210b1xg290e0e0Hk" ++
    "1Kf2j1xj040xCq0c0Op010zLHa0Ca0B01c1e029ybp11n0k028l1Bex12zf21122yi221E61xub51n7127c02320" ++
    "41d120819052c28220104060306ylxgy557224930113029D3b40Erxe191Bozgc395xn7e2a68"),
  (["ecomp", "emojicomponent"],
    "x306059D-j0Cl0xTFb0xY-mpLr4xJg3UxPcyv"),
  (["emod", "emojimodifier"],
    "zY_r4"),
  (["ebase", "emojimodifierbase"],
    "FMt0Cr0g3zPzn0xs22022zl12ali3042127010o0C9140l041Be234yj0g290b0Nv02087609922xo0xt11110h2" ++
    "1cD52xa8"),
  (["epres", "emojipresentation"],
    "EUq1Cd33020M91l1xibxb0j0d081h1518050l0711040207041s0x30104210xt2o0e0Wr1xj040zNBe0Ca0Bu02" ++
    "9ybp10o0k02412l1Bex0c81y51lcxa44cg303y6101Bq2xud31ni0q1d0ymykxgy560322243b178D3b40Erxe19" ++
    "1Bozgc395xn7e2a68"),
  (["extpict", "extendedpictographic"],
    "B9040DYd0c0Co0m0yq5f1Hf1c0B60pa42C70D71a090xq314902021204020112030318250105bb1201110i021" ++
    "i5101131502141b15120511011k155132040202510201010603060a1f02040104210b1xg290e0e0Hk1Kf2j1x" ++
    "j040xCq0c0Op010zLHa0x73z4bf1f0e1x59zg1c1e029jxnrea0k028139m6Br2zf21122yi22135Dt1xub51n71" ++
    "27c0232041d120819052c28220104060306ylxgy557221c30152cCqx5c3xo7a5x87u1c32d9x6cxe191Boyo7e" ++
    "r121xo131r131fE0_t"),
  (["ext", "extender"],
    "Bn0Mo1Xe0Jp0Pm0A90yp0Tg0zv0yG30xo0P30Ie0y40AY90xb4z71yt2XUm0xLm0-20m0A90zc0l1Rzr0ywg1xKb" ++
    "0r040xC70F50zk1Li2xCf0QB91xAs110YGo1xBh0Wk2"),
  (["grbase", "graphemebase"],
    "x0yux1c1Ohzg72546101j1Cv7B51x52xh22xe01020209q45h9b01xdlf1z48061204v201ttyob0exa963n4090" ++
    "307e1o501a5uhx9xpxm10138312792s1117212l1610333011612110d1124n5015412l1611111142o31079221" ++
    "0c018121l16111433801130f14b708117212l16111430206121f1124hb015321331101131323b5011321230l" ++
    "k6217121m1f3033j2202149791a121m1914312011o1114912ea121x8201152121142194p211h3n1810269166" ++
    "7922cxf11b78cx5110141n1019119024109923x0n2q10101d1x3i05024xh7151cx5xc4060212o233f4c11251" ++
    "e1x710502Ho132610132x8132x0132610132e1xo132y25s3p6yl252Qs3yo7hdi319hec12fxj207711b839696" ++
    "a596yo742x1105y5au43224115703x924bxb4p6a3xo213xn10901185d9696dymxfa3371s9b2v416xn102210d" ++
    "xf815e3xt5xa2ab0d0731512205Bvy0El252x525271010101u2xk1e1d251i22181a5n7xgg12q1c3x0xvAb4Qp" ++
    "malxUj2v1Gn315xc10502xn71fm9616161616161616x1ytx2p1yocClqxp6f1yl4z45xa1yt1yl9xf1YPc3xm9G" ++
    "rkxe40av2yf258Cd211017lf12131o24496xn8y3aboc1x58ob0ct6xf1141211c1a461o1x86121b21710292v1" ++
    "xi1031242010og27b5252596161xr4zk1113396GZ3cm4xgEE4Hd2z9x66c4501n141011111zsgJs2xl70x0fg9" ++
    "mx21i13441A64As2u352525223616d12b1p1i111e2dx2zq524xc3yn1c30xfxcA3s3xggq4x39t5x5at1x44dxa" ++
    "At296x34x34x78xjbb1e16111a1e16113xjcFm9la7o51x918y55201xb11302m1y788xgi115x03q50y0xn4j2x" ++
    "ef3121sa8787xvx0x46b9xl3s2q5p73c6ygy8xnxidxi7x9c96x58n81Cgu1x93021g2xrx78lb8mh43x6rkm901" ++
    "xlf64t1120cxg412113eo799x3509h8x212bxj9017411f1jbh1r314511xv610131e1a6xe12d98117212l1611" ++
    "14301013212130c6s910201x51011f011301211x7xn81301k1012uxf11601110202389B6xe1163202qx4xi81" ++
    "1023b96cjxa101181696jsq3011409mBpxe9020z4yic72027111n1411631299y672x98313r0ax7614790613x" ++
    "dd028dy879Bmx1e9681x5e015as3vp07020yb6111x5l09965111x441101079Fmi239e1x3813mym0fxhdYqz6z" ++
    "e14bC3yOcz2dxxfh5pzYq5O6CRptc239xS6No7u194yg196t70axf7ea9161k5iJgxpC6yqz5ya5xnbcy03sB_n8" ++
    "xClx99ET7316111F2f0t220e38IbyE4za5c38792020zX0Dp6JjAszjxsDlax62xr52m17t4xsly130zqjcjcym9" ++
    "oA7yk1y6112021231b10161y01327161r131410361Gj2F32Nhxn3xi71d16xzku65E5xtAixca62941G0tixb49" ++
    "50Kgr49Cmt2a40L0613111e1C428xgy3704941Uhy3ycxsC231q1110201913101060401010121110201010101" ++
    "011102316131310191g52141gxk1Eexb4z3ce2e1e1x4aBdxosdxb4871e5Aq-n4g3c3zm4yu6b40fb4xn896x78" ++
    "t2b41xuGjcd2c395xn7e2a687Ai1z5xw6xFSvx0Axp6Ct2BQ1eDFgfPdyJ2MtxL2AWa5Ayv"),
  (["grext", "graphemeextend"],
    "U0zfEj6E7xc10111110y8axgkg0z56252113x30uqyraxq890o3181214xb2xr8xan1vxn010474036a1t0xq010" ++
    "238090a1q021xp041412230u130b1xp0441140k1m510xq011138072a1u0xr010c090x8030xn012521371b1t0" ++
    "xq02110321371b1s1xp110238090a1t0y8040221080yh026c7z2028b6y91r01010xnd14115a1x390z6315112" ++
    "1p142g3d02160f0Rv2Zi3s2t1u1y0116802a90xd210zl1x20zm2419062Cr120xq0161010276920xguxh3xg94" ++
    "2x68c1x0325xo0113014xo721Ao21c16406031C6xvMc0C3x0y_u2Ad0z0vNa5z91ZKk319x01yg1Eg03040p150" ++
    "An1qhd0x67pa10xc2xg0232120x40y352121c080xf0xj012215110xa180De02040PVg0T1fgfHe1Ot0D20Al4x" ++
    "Q621153x8240B51Nt3y14Ft1yf3y6axh3zr0xmex9021a2xh32170xt2x4417xu0c1xk8108320yv2236020At03" ++
    "7l1xp11010c090e634y30251020124210e1yl72210n0yh02510201111Db0236111r1yl72011za01027z50102" ++
    "314E3811Dl0a340Ag32140x09x8523809522xec11Im61510yil261111zq530111610y813010Gr1b1xk452n0B" ++
    "D506eHC8b32yK04xr6xwo0xv3yh0b1PBb1AP1xd2mMu4358726u3Ak2xZrxm4xh80e0m41exGg61g261114z40B0" ++
    "6Hn0xt3Ls3Du1T06zd6UBSlyvA0Df"),
  (["graphemelink"],
    "yGd0zv0zv0zv0zv0zv0zv0zv0zd1g0zs0zf0zv0C90Bk1xSp1u0At0Qd0D30z51y61AIb0-Q60x50An0Ae0zc0Fl" ++
    "0Dm0TOh0xM60x90e0xp0zp1Ab0zk0Bk0z20Dk0zv0Ds0zv0zm0zk0Ed0E31B10yj0i0yh0J50E41yh0J91"),
  (["hex", "hexdigit"],
    "xg975q5x_R9975q5"),
  (["hyphen"],
    "xd0zv0xCs0APr0yw91zM50T30xPH70B90yn0"),
  (["idsb", "idsbinaryoperator"],
    "H_g129Lh0"),
  (["idst", "idstrinaryoperator"],
    "H_i1"),
  (["idc", "idcontinue"],
    "xg97p401pxf0a010205m1u1K94be47010hzk11231064101j1yi1Aa142B51x5206x88xc101111108q43ta5y94" ++
    "z517291i20gxq2z4exl40202xdir4a5n158ya1A0291i17212l1610332821238041142ba0102215412l161111" ++
    "11201441223073107fb218121l16111429121220f329961217212l1611142821227241142910g11532133110" ++
    "1131323b4432132060e9gc121m1f2812137112202329g317121m19142812137161132912cc121xi121453742" ++
    "9a5121h3n181026304510176921dxp5e19x7110141n101m2410161923x00n169b01010491x34j1h1x390xpy9" ++
    "6yd2x510502xa1Gc132610132x8132x0132610132e1xo132y22298efgyl253Pb2g1p5ya3a7l9lbjcc1211cyj" ++
    "304129x121a6yo7xa5y5au1b4bax724bxb4p6ax5r4xu1s2a69d08d1fxhyc39h8czjcxn893xg2a5xa22g21x65" ++
    "Ml252x525271010101u2xk1610321633254c5216f1xh1j0s0d0gcxjc403bh0402910256010101f235440hx8y" ++
    "PnD468cx510502xn70fn96161616161616161vM52pe14244yl261yu5xa1ythvxgfM0CJvy0RQcy3xd2Ec3rkxf" ++
    "491zix582z62y2211017lxl40jxjcy5a96n301xg2x3cs3y0ea6u1xm9d296m3y8o22f24a5252596161xa1d6zq" ++
    "11296GZ3cm4xgEE4Hd2z9x66c45b1c141011111zbx1Haixv2xlx8b4fgf31o2x041A6j97p401payp35252522x" ++
    "3b1p1i111e2dx2zqy5xkA80A2s3xgf0vvdt5xa5t2x34714xaAt296x34x34x78xjca1e16111a1e16113xjcFm9" ++
    "la7o51x918y55201xb11302mam9uy1i11alapy6xn61y031157121s2240x0s3sx371tpxlalaidhzey8xnxidxi" ++
    "dx7896x5341mDqx91131g2xnx0a08x0vlxakrm9y6vf9xr70do796xk19438x3209y4431c10x3h1x463xu61013" ++
    "1e197xq596317212l1611141921222060562634b910201x51910201317d1tya5943uy51089B6xl28n5x2y030" ++
    "b9x6xo796jsq2e4966Bpxqz5y9l72027111t1128c9y672xd2711rxu808y930iy8C7x0f9681xc18f9ot2l1dy9" ++
    "6111xb3011188965111x4111579Fmm9g1x834dayl0yfYpz6zehC3yOcz0fxxfglazYq5O6CRpxpxS6No7u196ye" ++
    "196t24bxm93c99k5iJgxc39C6xvA0ya4xo7gy0111b1eB_n8xClx99ET7316111F2f0t220e38IbyE4za5c38793" ++
    "1Ayh9M6xd2mMu4358726u3Ak2Jryk1y6112021231b10161y01327161r131410361Gj2o1o1u1o1u1o1u1o1u1o" ++
    "172xhM0xm4xh80e0m41exygu65Cl61g2611145xtx10zgxc3d2940G1uhxpKmx9CmxaL5613111e1C4b6x9yb49x" ++
    "B631q1110201913101060401010121110201010101011102316131310191g52141gzFk9xw6xFSvx0Axp6Ct2B" ++
    "Q1eDFgfPdyJ2MtxL2AWa5AyvRTGgDf"),
  (["ids", "idstart"],
    "y1p6pxf0a0405m1u1K94be47010A141123106012101j1yi1Aa8B51x5206x8y7q43xdxax311z210f171a220g0" ++
    "1ttyob0ox091405l409030no7a5n15hx9xqxl30i079ff47212l16103330g0d112e1a085412l16111111v310j" ++
    "2g8121l16111430i0f1n0b7212l16111430u112f0h015321331101131323bm0xk7121m1f30q22021u047121m" ++
    "191430v111f1h8121x820g05282o55h3n181026xqxf11c6xq110141n101911902410l3x00xv71x3r4zjxak0g" ++
    "5433031724cc0hx510502xa1Gc132610132x8132x0132610132e1xo132y2x5fgyl253Pb2g1p5ya3a7hdiehec" ++
    "12fxjx3040y3yo7x8105y5auxht24bxb4pxmm9xkyi0ytxeh7xmtd1axbqx3x92ax32a5xa22x931511305Bvy0E" ++
    "l252x525271010101u2xk1610321633254c5216zk0d0gcz50402910256010101f235440hx8yPnD46331cx510" ++
    "502xn70gm9616161616161616N62p874244yl441yp135xa1ythvxgfM0CJvy0RQcy3xd2Ec3fa1kxegu2yfx782" ++
    "z62y2211017lf12131mtxjexhxu53011bramps7xes0g419a41x8n217km303xh1031242010o22a72c52525961" ++
    "61xa1d6zitGZ3cm4xgEE4Hd2z9x66c450191c141011111zbx1Haixv2xlx8bzk41A6x4p6pbyo35252522x3b1p" ++
    "1i111e2dx2zqy5xkEbs3xgxfvdt5x5at2x34714xaAtix34x34x78xjca1e16111a1e16113xjcFm9la7o51x918" ++
    "y55201xb11302mam9uy1i11alapy6xn61y00f3121sxas3sx371rrxlalaidhzey8xnxidxidx3x6r9mDqx961g2" ++
    "xrsa08lxahxekrmcxkxp120dxcx0oqx3t0208x230cxfe3l010x3h1oj1xv610131e197xex67212l16111430i0" ++
    "c4u910201x510p010xcxki3k2uxfk110Boxex93x4xfk0xrxad0y7qx56Bpxbzkxvv72027111nf010yu72x6g01" ++
    "0s0ax770l0bxdj0iy8C7x0v81x4h0xhtzg6111x5l0p5111ve0G7if01c1x1zs0yfYpz6zehC3yOcz0fxxfh5pzY" ++
    "q5O6CRptxT2No7uhyehtixfg3vk5iJgxcCjxvA0ya50y2cy0110sB_n8xClx99ET7316111F2f0t220e38IbyE4z" ++
    "a5c3879BX6yk1y6112021231b10161y01327161r131410361Gj2o1o1u1o1u1o1u1o1u1o17xVku65E5xtAixca" ++
    "6g0G1tixbL4rD4t20Lf613111e1C4xry370xBk31q11102019131010604010101211102010101010111023161" ++
    "31310191g52141gAG4xFSvx0Axp6Ct2BQ1eDFgfPdyJ2MtxL2AWa5Ayv"),
  (["ideo", "ideographic"],
    "Iw61p8e2-5CJvy0QLvSE0Hd2z9ZEa0rB_n8xClx99Fz7IbPE4xFSvx0Axp6Ct2BQ1eDFgfPdyJ2MtxL2AWa5Ayv"),
  (["joinc", "joincontrol"],
    "Ewc1"),
  (["loe", "logicalorderexception"],
    "zO04zr4yTg220xADq12011"),
  (["lower", "lowercase"],
    "z1pxf0a040x4n171010101010101010101010101010101010101010101010101010101110101010101010111" ++
    "0101010101010101010101010101010101010101010102010122010203140203220201010201110203010212" ++
    "2602020101010101010101110101010101010101120103010101010101010101010101010101010101010101" ++
    "01010101010101016202110401010101y42x271u4z00xb0103023i0rx2113210101010101010101010101410" ++
    "2021xjxf10101010101010101010101010101010109010101010101010101010101010101010101010101010" ++
    "1010101020101010101011101010101010101010101010101010101010101010101010101010101010101010" ++
    "101010101010101010101010101010xgx8yW7xa13To5yA2810zlBvy101010101010101010101010101010101" ++
    "0101010101010101010101010101010101010101010101010101010101010101010101010101010101010101" ++
    "0101010101010101010101010101810101010101010101010101010101010101010101010101010101010101" ++
    "01010101010101010101010101010101010101885a78785a7878d2787878411603211832187a211zp0d0gczd" ++
    "03130r04040218340x1f40WbpxW6xf1031101010401117301010101010101010101010101010101010101010" ++
    "1010101010101010101010101010101010101010101010101010101011701040cx51050-Ej01010101010101" ++
    "0101010101010101010101010101010j010101010101010101010101012A5010101010101210101010101010" ++
    "1010101010101010101010101010101010101010101010191010201010101040102012101010101010101010" ++
    "10505010101010101010401020301010101010m21012Vlxa1d6yfPW06c4xx9pxCdx7A8x3Ara1e1611K30221x" ++
    "918xE5xiztlyVqvRI0vVIqpq61hqpq310161aqpqpqpqpqpqpqpqpqrso15qo15qo15qo15qo1510xVk91j65E5x" ++
    "tyBkx1"),
  (["math"],
    "xb0g2v0t010xd040x50v0So220q122Mf2CMd0r2b030d0e3l4b4y1c403144i04029102560312112153d10y4n1" ++
    "511414v1061eEb83k1yq0uq10o0b6Jt1c945412134e01025b751xp010t392GgxvE0Lvxgk25xP-s0Vn510B20g" ++
    "2t010t010A3063zJ11xNPgyk1y6112021231b10161y01327161r131410361Gj2F32xhBM031q1110201913101" ++
    "060401010121110201010101011102316131310191g52141gxk1"),
  (["nchar", "noncharactercodepoint"],
    "x_KgvMe1x__u1x__u1x__u1x__u1x__u1x__u1x__u1x__u1x__u1x__u1x__u1x__u1x__u1x__u1x__u1x__u1"),
  (["patsyn", "patternsyntax"],
    "x1ea6q310q3x2610111011404030n0v0DUon8e2i19FhSfB0Pluxw11z8M0zvI124of0xPEd1E51"),
  (["patws", "patternwhitespace"],
    "94i0z40DY81o1"),
  (["pcm", "prependedconcatenationmark"],
    "xM05Cn0xh0I01yg0yx-q0f0"),
  (["qmark", "quotationmark"],
    "x2040A30f0DWs7p1zM70K93d2xPN13Bt040yq1"),
  (["radical"],
    "HQ0p1yocCl"),
  (["ri", "regionalindicator"],
    "zYL6p"),
  (["sterm", "sentenceterminal"],
    "x10c0g0xG90Aj2Bk0xb2Dm0xt01031F51xT41Um041U50C61At1xd050Fq1H23B21a121t2Br1y11Z40n192zBf2" ++
    "Fi0d0m1Jd0ZDs0Ee1D3030Hu1ym1yv0Ao1Aj2Ag1Dp0QN6021xr031B90c0g0y10yTk1xDt4xc3Bt1zl3zv2A116" ++
    "0g1yo111zc0Fa1zl1Hl15ez91Dp2M5010Dr1yn1J41Rk1ya1OV91A50y11b0N91F80PM60DL80"),
  (["sd", "softdotted"],
    "z91C40Ep0u0xk0k0G00z2010CE90xj0d030A40At0J50Cm1yVi0zFZ51xi1xi1xi1xi1xi1xi1xi1xi1xi1xi1xi" ++
    "1xi1yA60Fh1q0"),
  (["term", "terminalpunctuation"],
    "x10a010b130Vu080M10xp0y80e012Bk0xba10Db1xm517v0E51xDk1Bc045Fn1Ul7U50zs2y71At230x7321Fq1H" ++
    "23B21a112t2Br4xu1Z40n192zBf2Fi0d040a01131Jc1ZDr1Ed2D34Hu1ym1yv0An2Aj2zv0g1Dp0QN6021xp213" ++
    "B90a010b130y1020xxq0xg0xA60C70Fm1Ao5y45yp3Zo4xc3Bt6zg3zv2A1160g1yo4zc0Fa1zl2c1H633ez91Dp" ++
    "2M5010Dr1yn141Iu2xd0Q51ya1xFb4NLp1A50y12a0N91F71PM60DL73"),
  (["uideo", "unifiedideograph"],
    "Jw0CJvy0QLvSMe11011a0101122yxKmxFSvx0Axp6Ct2BQ1eDFgfPdAJ2AWa5Ayv"),
  (["upper", "uppercase"],
    "y1pz5m16x1010101010101010101010101010101010101010101010101010101020101010101010102010101" ++
    "0101010101010101010101010101010101010101110103110111223111231111010111020111210113070202" ++
    "0201010101010101020101010101010101020201210101010101010101010101010101010101010101010101" ++
    "010101010107111201310101010F10103080601210111g18x30223010101010101010101010105020112xixg" ++
    "0101010101010101010101010101010109010101010101010101010101010101010101010101010101010101" ++
    "1101010101010201010101010101010101010101010101010101010101010101010101010101010101010101" ++
    "0101010101010101010102x5yW9x51050SiylyAj06xa22G00101010101010101010101010101010101010101" ++
    "0101010101010101010101010101010101010101010101010101010101010101010101010101010101010101" ++
    "0101010101010101010109010101010101010101010101010101010101010101010101010101010101010101" ++
    "01010101010101010101010101010109785a78785b010101087y83c3c3c4b3E6040322220346010101323a15" ++
    "0qfj0VipxVgxfxg0122010101310208210101010101010101010101010101010101010101010101010101010" ++
    "101010101010101010101010101010101010101010801040-Gd0101010101010101010101010101010101010" ++
    "10101010j010101010101010101010101010A701010101010103010101010101010101010101010101010101" ++
    "0101010101010101010101010a01011101010104010201030101010101010101010141410101010101010131" ++
    "0113050101010o0RVbpxC5x7A8x3Asa1e1611xTaxiAtlyVqvRI0vVJ0pqpqpq01120212317qpq1132716r1131" ++
    "41036rpqpqpqpqpqpuox1ox1ox1ox1ox10AFlx1ywep6p6p"),
  (["vs", "variationselector"],
    "Cwb210xVLgfWwTgDf"),
  (["wspace", "whitespace", "space"],
    "94i0z40q0BKv0yHvat150xf0zZ00"),
  (["xidc", "xidcontinue"],
    "xg97p401pxf0a010205m1u1K94be47010hzk11321064101j1yi1Aa142B51x5206x88xc101111108q43ta5y94" ++
    "z517291i20gxq2z4exl40202xdir4a5n158ya1A0291i17212l1610332821238041142ba0102215412l161111" ++
    "11201441223073107fb218121l16111429121220f329961217212l1611142821227241142910g11532133110" ++
    "1131323b4432132060e9gc121m1f2812137112202329g317121m19142812137161132912cc121xi121453742" ++
    "9a5121h3n181026304510176921dxp5e19x7110141n101m2410161923x00n169b01010491x34j1h1x390xpy9" ++
    "6yd2x510502xa1Gc132610132x8132x0132610132e1xo132y22298efgyl253Pb2g1p5ya3a7l9lbjcc1211cyj" ++
    "304129x121a6yo7xa5y5au1b4bax724bxb4p6ax5r4xu1s2a69d08d1fxhyc39h8czjcxn893xg2a5xa22g21x65" ++
    "Ml252x525271010101u2xk1610321633254c5216f1xh1j0s0d0gcxjc403bh0402910256010101f235440hx8y" ++
    "PnD468cx510502xn70fn96161616161616161vM52pe14244yl21221yu5xa1ythvxgfM0CJvy0RQcy3xd2Ec3rk" ++
    "xf491zix582z62y2211017lxl40jxjcy5a96n301xg2x3cs3y0ea6u1xm9d296m3y8o22f24a5252596161xa1d6" ++
    "zq11296GZ3cm4xgEE4Hd2z9x66c45b1c141011111zbx1Aa6Cpixv2xlx896fgf31o2x1010301010101ztj97p4" ++
    "01payp35252522x3b1p1i111e2dx2zqy5xkA80A2s3xgf0vvdt5xa5t2x34714xaAt296x34x34x78xjca1e1611" ++
    "1a1e16113xjcFm9la7o51x918y55201xb11302mam9uy1i11alapy6xn61y031157121s2240x0s3sx371tpxlal" ++
    "aidhzey8xnxidxidx7896x5341mDqx91131g2xnx0a08x0vlxakrm9y6vf9xr70do796xk19438x3209y4431c10" ++
    "x3h1x463xu610131e197xq596317212l1611141921222060562634b910201x51910201317d1tya5943uy5108" ++
    "9B6xl28n5x2y030b9x6xo796jsq2e4966Bpxqz5y9l72027111t1128c9y672xd2711rxu808y930iy8C7x0f968" ++
    "1xc18f9ot2l1dy96111xb3011188965111x4111579Fmm9g1x834dayl0yfYpz6zehC3yOcz0fxxfglazYq5O6CR" ++
    "pxpxS6No7u196ye196t24bxm93c99k5iJgxc39C6xvA0ya4xo7gy0111b1eB_n8xClx99ET7316111F2f0t220e3" ++
    "8IbyE4za5c387931Ayh9M6xd2mMu4358726u3Ak2Jryk1y6112021231b10161y01327161r131410361Gj2o1o1" ++
    "u1o1u1o1u1o1u1o172xhM0xm4xh80e0m41exygu65Cl61g2611145xtx10zgxc3d2940G1uhxpKmx9CmxaL56131" ++
    "11e1C4b6x9yb49xB631q1110201913101060401010121110201010101011102316131310191g52141gzFk9xw" ++
    "6xFSvx0Axp6Ct2BQ1eDFgfPdyJ2MtxL2AWa5AyvRTGgDf"),
  (["xids", "xidstart"],
    "y1p6pxf0a0405m1u1K94be47010A141132106012101j1yi1Aa8B51x5206x8y7q43xdxax311z210f171a220g0" ++
    "1ttyob0ox091405l409030no7a5n15hx9xqxl30i079ff47212l16103330g0d112e1a085412l16111111v310j" ++
    "2g8121l16111430i0f1n0b7212l16111430u112f0h015321331101131323bm0xk7121m1f30q22021u047121m" ++
    "191430v111f1h8121x820g05282o55h3n181026xqxf10d6xq110141n101910a02410l3x00xv71x3r4zjxak0g" ++
    "5433031724cc0hx510502xa1Gc132610132x8132x0132610132e1xo132y2x5fgyl253Pb2g1p5ya3a7hdiehec" ++
    "12fxjx3040y3yo7x8105y5auxht24bxb4pxmm9xkyi0ytxeh7xmtd1axbqx3x92ax32a5xa22x931511305Bvy0E" ++
    "l252x525271010101u2xk1610321633254c5216zk0d0gcz50402910256010101f235440hx8yPnD46331cx510" ++
    "502xn70gm9616161616161616N62p874244yl621yp135xa1ythvxgfM0CJvy0RQcy3xd2Ec3fa1kxegu2yfx782" ++
    "z62y2211017lf12131mtxjexhxu53011bramps7xes0g419a41x8n217km303xh1031242010o22a72c52525961" ++
    "61xa1d6zitGZ3cm4xgEE4Hd2z9x66c450191c141011111zbx1Aa6Cpixv2xlx89zn010301010101ztx4p6pbxn" ++
    "2u35252522x3b1p1i111e2dx2zqy5xkEbs3xgxfvdt5x5at2x34714xaAtix34x34x78xjca1e16111a1e16113x" ++
    "jcFm9la7o51x918y55201xb11302mam9uy1i11alapy6xn61y00f3121sxas3sx371rrxlalaidhzey8xnxidxid" ++
    "x3x6r9mDqx961g2xrsa08lxahxekrmcxkxp120dxcx0oqx3t0208x230cxfe3l010x3h1oj1xv610131e197xex6" ++
    "7212l16111430i0c4u910201x510p010xcxki3k2uxfk110Boxex93x4xfk0xrxad0y7qx56Bpxbzkxvv7202711" ++
    "1nf010yu72x6g010s0ax770l0bxdj0iy8C7x0v81x4h0xhtzg6111x5l0p5111ve0G7if01c1x1zs0yfYpz6zehC" ++
    "3yOcz0fxxfh5pzYq5O6CRptxT2No7uhyehtixfg3vk5iJgxcCjxvA0ya50y2cy0110sB_n8xClx99ET7316111F2" ++
    "f0t220e38IbyE4za5c3879BX6yk1y6112021231b10161y01327161r131410361Gj2o1o1u1o1u1o1u1o1u1o17" ++
    "xVku65E5xtAixca6g0G1tixbL4rD4t20Lf613111e1C4xry370xBk31q11102019131010604010101211102010" ++
    "10101011102316131310191g52141gAG4xFSvx0Axp6Ct2BQ1eDFgfPdyJ2MtxL2AWa5Ayv"),
  (["otherlowercase", "olower"],
    "Ba0f0Ll871u4z00xk0zI10zxfxud0x2x4Rh0d0gcCjfWgpxYi1-Mu1Ci0A1231X2390Twm0221x918xSzlxt"),
  (["otheruppercase", "oupper"],
    "EH0fW6pzPz0p6p6p"),
  (["otheralphabetic", "oalpha"],
    "X3cO0d10111110y8axgc16g0z56432140x30ufz6az51381213za0xsb366jxm12e1152a1t2xq62121a0a1t2xq" ++
    "4412140u130b2xq71211l1m242xq6212191a1u0xr43212a0x84xp6121281b1t2xq6121281b1f0c3xq61212a0" ++
    "a1t2yb51017i1xt026i0z302511g0B3i9a1x3zeb1023n342122633db10a3xPk1u1u1u1y2iBs1x20zmb48Cu4x" ++
    "p92jya1b2xh4xgexs2u821xpaxiiIsx1z_bv-zk7x21H2080n4yo1xif10xp0x64sbxd3xgbx50y3dc081xd2xi0" ++
    "122150xc450Dd7PVj0yyn4xQ621153Uk3y10G11yf0E32xldxd1b2xd890xt2x4bi1xp2xgce1ys8206020At9n3" ++
    "xq62121a0a1yk810201311z7c12zahDd626t1yie10zaaz7dE1cDn511213010Ae62540s9xa413iaxedIn716yj" ++
    "l1dzq53011121030y241113Gs39110xg632MKtgzN001xm73yt1PBc0EX161g261114z40yBn0"),
  (["othermath", "omath"],
    "yu0Xh220q121Dx00r2b0x03o1e1y1c403144i04029103460312112153354yb4231111101421414h211016106" ++
    "1F23B8110o0h0Jt1c854512134e01025o1xp010t391Gm1v9Ijlxv3x01xRz301040Cj010xRC1yk1y611202123" ++
    "1b10161y01327161r131410361Gj2o1o1u1o1u1o1u1o1u1o172xhBM031q11102019131010604010101211102" ++
    "01010101011102316131310191g52141g"),
  (["othergraphemeextend", "ogrext"],
    "yJu0o0H60o0z60o0D8010411191z70o0zn0f0yFl0u0xw00501051z50y71xwo0Ax11-F30zc0RKt1AN00zk0E80" ++
    "e090z0090201250D00c0Dh0E60Pp0c0xM30QBe1UHj165UHRdyv"),
  (["otheridstart", "oids"],
    "CA51yAh0l0zXc1"),
  (["otheridcontinue", "oidc"],
    "Bn0Sf0z_18xP80xNh1ADd0xPP90"),
  (["otherdefaultignorablecodepoint", "odi"],
    "Wf0zMf1xOj1yBf0ADu0xPNr0yf8Www701tz0zvDgzMf"),
  (["idsunaryoperator", "idsu"],
    "H_u1"),
  (["idcompatmathstart"],
    "EM2040m0zJB20p0v0p0v0p0v0p0v0p0"),
  (["idcompatmathcontinue"],
    "Bi150DZm03a1eHj040m0zJB20p0v0p0v0p0v0p0v0p0"),
  (["modifiercombiningmark", "mcm"],
    "xOk120A306031L111230v0")]

end Pattern

end DocumentModel
