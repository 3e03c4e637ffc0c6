import DocumentModel.Text.CharRanges

/-!
# How characters of domain names are mapped

The characters that are kept and those that are dropped, as written ranges, and those that are
replaced. A replacement is written as numbers: the distance from the character of the one before, a
number `h`, and characters. If `h` is a multiple `3 * n` of three, the `n` characters replace that
one character. Else one character follows, which replaces it, and the next `h / 3 - 1` characters,
or every second one if `h % 3 = 2`, are replaced by characters at the same distance.
-/

namespace DocumentModel

namespace Format

namespace Domain

def keptText : String :=
  "0y0qx4x1610111011413030n07x01010101010101010101010101010101010101010101010101030111010103010" ++
  "10102010101010101010101010101010101010101010101010201010102010203140203220201010201110203010" ++
  "2216a010101010101011101010101010101011403010101010101010101010101010101010101010101010101010" ++
  "10101016202110401010101z09u615yq20381v1010101032i0rx28010101010101010101010101030201021xjxf1" ++
  "01010101010101010101010101010101810101010101010101010101010101010101010101010101010101020101" ++
  "01010101110101010101010101010101010101010101010101010101010101010101010101010101010101010101" ++
  "0101010101010x9xd12221xm8q45hl1yn4z31xf2xq2z4exq2xg2e1r201a5v7ya1zk8x317212l1610332821238083" ++
  "2o2215412l161020212014412230a09ga218121l16111429121220f32b761217212l16111428212272742ha11532" ++
  "1331101131323b4432132060ek5c121m1f28121371121123297l121m19142812137152132912cc121xi12154f2p1" ++
  "21h3n181026304510176922cxh164sx5110141n101b192410161941x0b1xl13131313131b124110561g131313131" ++
  "31b121e1cx5Avxgxb1z12D7132610132x8132x0132610132e1xo132y22v3p6ylaPv1r3yo7l9n9jcc1211cxj2x729" ++
  "696a596yo7xa5y5au1b4b403x924bxb4p6a3xt2y01s2a696d2xd2bkyc1B58xr3e3xia0xl78xa5xb30b0i0sc1x1x5" ++
  "xv101010101010101010101010101010101010101010101010101010101010101010101010101010101010101010" ++
  "10101010101010101010101010101010101010101010101010101010101421101010101010101010101010101010" ++
  "1010101010101010101010101010101010101010101010101010101010101010101885a78785a787801010101010" ++
  "10xj140f092318213e0l120141b3082202310173c16y171oex0j030b021513010101040b06355xg214114Ar202Dn" ++
  "2DumaB0xF01z63z41Am2A9xgxf103110101040111550101010101010101010101010101010101010101010101010" ++
  "101010101010101010101010101010101010101010101010171013105xc10502xn80en96161616161616161ztx2p" ++
  "131yiEe01xi10341yl21211yu6xaz01ey5afy87xf0I0YAc3xm9Grl01010101010101010101010101010101010101" ++
  "010101i10101010101010101010101010102yp8x1101010101010121010101010101010101010101010101010101" ++
  "01010101010101010101010101710102010101013101110121010101010101010101050501010101010101040102" ++
  "010101010101010q12xi396xn8y58b6zjbt3yd1a4x01xm9d292z6ora5252596161xb4811ykxd296GZ3cm4xgEMi11" ++
  "011a0101122Dk0Ajx0Hbhy01xm7xd2x0fl1xc0Icb1p1i111e2dx2zq524xc3yn1c30xfxdA2s3xgfr4x39t5xa5t1x4" ++
  "4dyizl29xex34x78xjb0x7a1e16113xjcFm9la7o0zv5201xb11302m1y788xgi115x03q5qx6xn4j2xh1157121s224" ++
  "9787xvx0x64b9xl3s2q5p73c6ygy8znxi7xd896fps81Cgu1x91221g588x1xd8x9mpx6rkm9yd4x39xt14do796xk1h" ++
  "8x69yv1jbh1xexu610131e1a6xq596317212l1611141921222060562634b910201x519102013191181tyr14uy789" ++
  "B6xl2x5x2y4b96cjxp696jsq2e4mBpxrA4xic72027111t112b99y672xd2ary78yidy879ym7yox1e9681xc1das3v2" ++
  "l1dy96111xb3011188965111x41115796xb49Dmo7g1x83syl0fxhdYqz6ze14bC3yOcz2dxxfglazYq5O6CRpxpxS6N" ++
  "o7u194yg196t25ay5a9161k5iJgxpD6xqx0oxcya4xo7gy04b69DClx9vz1ziELt316111F2f0t220e38IbyE4za5c38" ++
  "7923zX0Clx423Jj6mfgfxd2m9zjxsDlax62xk7d8xv6x9ly5zqjcjcym9oxA7Qbf41exygu65Cl61g261114z40zgxc3" ++
  "d2941G0uhxp50Kgx9Cmxa40C0u1l81D0613111e1C42fybx94941Uhy3ycxsJi1Eexb4z3ce2e1e1x4l4v0x0p3x21sx" ++
  "opz05Aq-o3g3c3Cp6b40fb4xn896x78t2b41e8x7Gn8d2c3a3xo104f2b497Ai1yra0xw5xFSvx0AEt2BQd2DFgfPdAJ" ++
  "2AWa5EF9"

def droppedText : String :=
  "Bd0R10zMf1xOj1yl4x_r0yk455ADk0xPArfDf0B00xLDv3BCf7UHY5Df"

def replacedText : String :=
  "y1yfz1yv3x086x0U823z156x0U437xi26x0U113Zs36x0V713xh13zf29xhEy4xk19xhEy4xi19xjEy4xk2y6D0omDox" ++
  "8yaE1xg6z9U726z9za16z9za18Fl5bFq66zcBn16zcBn1eG286Rsze1y7Gbxe3Dv1bHq63zj23Oj18I343Ok13I827Om" ++
  "23Ic33Kt13Op13Or13Ii23P013P323P913P813Ip43Pf13Pi23Pl1bJ163Q013J823Q333Jd23Q813Jg27Qa28Jk43Qi" ++
  "13Jp43Jt86z4Hu16z4Hu16z4Hu16zcza16zcza16zcza16zeza16zeza16zeza1qKehtKvj6z4zq16z4zq16z4zq13Ll" ++
  "23Il13Jv1xuLpx83Iu2tN3o3Hz513Ns23Iq13Hz633O223I013Q913Qc1hO7za3z813P613za13zi13Pp13Pr13Q113z" ++
  "n13zpx06x0U616x0U716x0Ua16x0V816x0U316x0Ub33P313zc13zj13zo13Qlys7U033Uj16U8U113Zpxb8Xh43Rp23" ++
  "Xn46x0Zp43xr13_j56x0U119x0U8U113Zc13Bn1aZd43-c27-d3xkZhis-3xc3-n13Zi13Zo13-513-d13-b13-613-0" ++
  "2x6-po3Zq13-113-323Zo13Zl23_o23-313_r3aXr3xhxyggz1xxgygxlxz1xayjxAbxm3xCf1nxC2fAixChz1zjxH1y" ++
  "m6xH5xI2De6xN7xPk16xO8xPk16xS7xPk16xOaxPkT06yElyFs16yEmyFs16yEnyFs16yEsyFs16yF1yFs16yF2yFs16" ++
  "yFbyFs16yFfyFszt6yJ1yJs16yJ2yJs26yJfyJsyk6yNiyNs36yNoyNsx36yMmyNs16yMnyNs16yMsyNs36yNbyNsDu6" ++
  "yV1yVs16yV2yVsSm6zOdzNiA06zSdzRix96zRbzQp16zRbzR1xf3zUbxn6zW2zZna6zWczZn56zWhzZn56zWmzZn56zW" ++
  "rzZnd6zW0zZla6zXhzXi26zXhzXk16zZizY019zZizXhzY016zZjzY019zZjzXhzY086zXhzY0i6zYizZna6zYszZn56" ++
  "zZ1zZn56zZ6zZn56zZbzZnd6zYgzZlD7zjHE0x73HF763HFdxf3ACsTsjA_gyA83xxi13xxk13xxu17xy123xy213xya" ++
  "13xz313xFOb13DAa7A2ACgxdaADtzf3z113D618z233z513Kt1pz793zf13N313zg13zi17zk23zn13z117Og23DE213" ++
  "z217z423Op17Or23z723zb13zd13Gb13zf13Ok17DEm23zg17zk23DEt13Pf13zm13DF51aZi37-623z913zi17zl27Z" ++
  "i23-117-6f3xxtx33Oi13z313Ol13Dg13Os13z613Ov13P113P51aP833DHr13Qt13Pd13DI513Qv13Ph13Pg1dPi43P" ++
  "o17Q223Jb17Q923DEs17Qb23zq1aQg33Zoy1D3DM1Aq6z1Ru13DP133Cv2AiDR1z8pDU0gjDUggpDV0gpDVggjDW0heD" ++
  "WhfpDX093Zc23Zd23Ze23Zf23-c23-d23-e36DU0Zp16DU1Zp16DU2Zp16DU3Zp16DU4Zp16DU5Zp16DU6Zp16DU7Zp1" ++
  "6DU0Zp16DU1Zp16DU2Zp16DU3Zp16DU4Zp16DU5Zp16DU6Zp16DU7Zp16DV0Zp16DV1Zp16DV2Zp16DV3Zp16DV4Zp16" ++
  "DV5Zp16DV6Zp16DV7Zp16DV0Zp16DV1Zp16DV2Zp16DV3Zp16DV4Zp16DV5Zp16DV6Zp16DV7Zp16DX0Zp16DX1Zp16D" ++
  "X2Zp16DX3Zp16DX4Zp16DX5Zp16DX6Zp16DX7Zp16DX0Zp16DX1Zp16DX2Zp16DX3Zp16DX4Zp16DX5Zp16DX6Zp16DX" ++
  "7Zp36DXgZp16ZhZp16ZcZp36DZmZp17DZg23DXg13Zc16ZhZp16x0Uj13Zp16x0Uj16x0W219x0U8W216DXkZp16ZnZp" ++
  "16ZeZp36D-6Zp13DXi13Zd13DXk13Ze16ZnZp19x0UjU019x0UjU119x0UjW243Yg57D-g23DXm13Zf29x0UkU019x0U" ++
  "kU119x0UkW243Zg57D_023DXq13-d13D_519x0U8U019x0U8U113z036DXsZp16-9Zp16-eZp36D_mZp13DXo13-c13D" ++
  "Xs13-e16-9Zp16x0U116x0Uk23x013x013x013x013x013x013x013x013x013x013x073Ewg66x0Vjo3x046ExiExi1" ++
  "9ExiExiExi26ExlExl19ExlExlExl56x1x126x0U596xvxv16xvx116x1xvecExiExiExiExi83x0h3xg13z93jxk63x" ++
  "b13EMi13xt17x823ze1vxga3xb13EMi13xt17x833z113z513zf13zo13Op13z81dzb43zg17zjd6zizjyo9z1xfz319" ++
  "z1xfzj13z316Bgz329z3xfzf19z3xfzl13Or26Bgz617z723z813z813z813F713z913z913zc18zc36zezf3azg33zi" ++
  "13zi36zjzd19zkz5zc16zkzd23zq23-923zq23zb13D517z233z517z523EGe13zd13zf1dxKg43z929z6z1zo13-013" ++
  "Zj13Zj13-013EMh53z417z427z989xhEy4xn19xhEy4xp1cxhEy4xhxg19xhEy4xj19xiEy4xj19xhEy4xl19xiEy4xl" ++
  "19xjEy4xl19xkEy4xl19xhEy4xm19xlEy4xm19xhEy4xo19xjEy4xo19xlEy4xo19xnEy4xo16xhEy413z916z9z919z" ++
  "9z9z916z9zm13zm16zmz919zmz9z91czmz9z9z916z9zo13zo16zoz919zoz9z913zc17z323zd13z916z9z919z9z9z" ++
  "916z9zm13zm16zmz919zmz9z91czmz9z9z916z9zo13zo16zoz919zoz9z913zc17z323zd43EI469xgEy4xjB36ENbE" ++
  "Nb19ENbENbENb26ENeENe19ENeENeENeDp7Iw8Fnsxh96xhxg16xhxh16xhxi16xhxj16xhxk16xhxl16xhxm16xhxn1" ++
  "6xhxo16xhxp16xixg19x8xhx919x8xix919x8xjx919x8xkx919x8xlx919x8xmx919x8xnx919x8xox919x8xpx91cx" ++
  "8xhxgx91cx8xhxhx91cx8xhxix91cx8xhxjx91cx8xhxkx91cx8xhxlx91cx8xhxmx91cx8xhxnx91cx8xhxox91cx8x" ++
  "hxpx91cx8xixgx9l9x8z1x919x8z2x919x8z3x919x8z4x919x8z5x919x8z6x919x8z7x919x8z8x919x8z9x919x8z" ++
  "ax919x8zbx919x8zcx919x8zdx919x8zex919x8zfx919x8zgx919x8zhx919x8zix919x8zjx919x8zkx919x8zlx91" ++
  "9x8zmx919x8znx919x8zox919x8zpx919x8zqx91yfz1qyfz1q3xgxF2cENbENbENbENbz89xqxqxt16xtxt19xtxtxt" ++
  "z66GStVoF4AhHxgz03Hz123Pb13DHt13Pt3bHz863Oh13Ph13Og13Oi23Hzj33Hzm73za13zm17Nv2AoHA1zb8HDc73H" ++
  "Djzt3HH1Fg3W-dyk3xDYvd3PM013PN813PNm13PNv13POp13PQ513PQc13PR013PRq13QFv13QH513QHb13QI213QIm1" ++
  "3QJb13QL013QLl13QM013QQr13QTp13QUl13QUq13QVo13QW113QWs13QX913QY213QZm13Q-813Q_313RSn13RUv13S" ++
  "Db13SE213SEa13SEl13SF713SHj13SWg13SY013S_o13Twf13Tx213Txo13Tze13Tzh13TKr13TL513TLh13TLu13TPi" ++
  "13TPq13TPv13TTk13TTu13TUb13TUj13TWg13TX113TXj13T-313UM813UNm13UOb13VFf13VFk13VI713VIn13VJ413" ++
  "VJp13VL013VL513VTg13VU813VV813WV013WX213WXp13WZj13W-b13W-k13W-r13Xwf13Xwk13Xxk13Yzb13YNa13YN" ++
  "m13YNr13YNv13YO713YOp13YOr13YRc13YY413YY913ZCs13ZD613ZEo13ZEv13ZF813ZFg13ZIb13ZIi13ZPm13ZPt1" ++
  "3ZRe13ZRv13ZTe13Z-r13Z_213Z_j13-Fq13-Jo13-Ju13-Pk13-Sb13-Tp13_zj13_Do13_Vm13_Wh13_Ya13_Zt13x" ++
  "ww113xwwc13xwwi13xwxj13xwzv13xwA913xwL313xwLa13xwLj13xwLs13xwMc13xwMr13xwMv13xwPe13xwPi13xwP" ++
  "o13xxOd13xxPb13xyy013xyyc13xyz313xyHu13xyIb13xyKi13xyM013xzxn13xzy613xzyl13xzzo13xzAt13xzH41" ++
  "3xzHg13xzJj13xzRb13xzSa13xzYr13xzZg13xzZl13xAAh13xAG913xAK613xAKc13xAKh13xBHn13xBI013xBMs13x" ++
  "BRm13xBRp13xBT813xBWh13xBWu13xBX213xBX913xB-b13xB_d13xB_j13xCw113xCB813xCCr13xCCv13xCIm13xCI" ++
  "p13xCJc13xCR813xCSo13xCSv13xCV513xCVf13xCVi13xCVs13xCWq13xDD513xDPl13xDPv13xDR513xDRr13xDS31" ++
  "3xDSd13xDSh13xDTp13xDTt13xDUe13xDUj13xDV013xDVr13xDWa13xDWi13xDYd13xDYs13xDZ0xb3x023xexk3Iwi" ++
  "23QW117QW4z26x0IAp16x0IAq36IA8IAaz06IBjIC8xi7AE023AJa13AE217AJc2aAE33jAJg63AEq1aAE633AF11vAE" ++
  "9ay0AH1m7AEk27AK723AKc13AKe13AKj13AKn13AKp13AEs13AKt13AKv17AEt23AF017AF223AF713AF91gAFb53AFi" ++
  "13AFm13AG013AG713AGc17ALh2aAGn37AI423AI817AIh23AIk13AIu13AJ143PM013PQc13PM913RSr13PMa13PNd13" ++
  "PMb13ZFi13POp13PMp13PM113SF913RVg13PRqz19x8AE0x919x8AE2x919x8AE3x919x8AE5x919x8AE6x919x8AE7x" ++
  "919x8AE9x919x8AEbx919x8AEcx919x8AEex919x8AEfx919x8AEgx919x8AEhx919x8AEix919x8xHw0x919x8xIAox" ++
  "919x8xIT4x919x8xJXsx919x8xKK8x919x8xLwkx919x8xMBcx919x8xNG4x919x8xNYgx919x8xPx8x919x8xPPkx91" ++
  "9x8xQC0x919x8xQUcx919x8xRGox919x8xODsx91cx8xNN4xOw4x91cx8xNN4xRS4x929x8PM0x919x8PQcx919x8PM9" ++
  "x919x8RSrx919x8PQkx919x8QHdx919x8PM3x919x8QHbx919x8POtx919x8QW1x919x8VU8x919x8Yzbx919x8Xxkx9" ++
  "19x8VV8x919x8xAKhx919x8RUvx919x8VL5x919x8Wxax919x8VU9x919x8-Fux919x8Rwdx919x8YPpx919x8xzB1x9" ++
  "19x8-Gtx919x8QRkx919x8PT3x919x8Rzsx919x8SX6x919x8ZT3x919x8PU1x919x8xzC7x919x8QWkx919x8-Hdx91" ++
  "9x8PUhx919x8xwLax919x8xwLjx913RGf13TPs13VI713-Yf99zgzkz516xixh16xixi16xixj16xixk16xixl16xixm" ++
  "16xixn16xixo16xixp16xjxg16xjxh16xjxi16xjxj16xjxk16xjxl13AE017AE22aAE533AE917AEb2gAEe53xHw013" ++
  "xIAo13xIT413xJXs13xKK813xLwk13xMBc13xNG413xNYg13xPx813xPPk13xQC013xQUc13xRGo16xPxoxHD016xODs" ++
  "xNWo13xNRg23PM013PQc13PM913RSr13PQk13QHd13PM313QHb13POt13QW113VU813Yzb13Xxk13VV813xAKh13RUv1" ++
  "3VL513Wxa13VU913-Fu13Rwd13YPp13xzB113-Gt13QRk13-Ko13ZFn13SHj13xAz913QFa13QXg13XD813xCw513PUh" ++
  "13QIp13WX313PMa13PNd13PMb13TL613Q_j13QVr13SYn13SX613ZT313PU113xzC713QWk13SEs16xjxm16xjxn16xj" ++
  "xo16xjxp16xkxg16xkxh16xkxi16xkxj16xkxk16xkxl16xkxm16xkxn16xkxo16xkxp16xlxg16xhVU816xiVU816xj" ++
  "VU816xkVU816xlVU816xmVU816xnVU816xoVU816xpVU819xhxgVU819xhxhVU819xhxiVU816z8z719z5ziz716z5zm" ++
  "19zczkz413IB213IB413IB613IB817IBa23IBd13IBf13IBh13IBj13IBl13IBn13IBp13IBr13IBt13IBv13IC113IC" ++
  "413IC613IC81jICa63ICi13ICl13ICo13ICr1gICu53ID413ID61jID86dIDf46PT4RAc1cIB2IChIDsIC81cIB2IDbI" ++
  "ClIB11cIB2IDjICqIB219IB2IDsIDb1cIB4ICbIDjIBg19IB4IDjIC119IB6IB9IDj1fIB8IBpIBfIDsIC91cIB8IDsI" ++
  "BbIDs19IBaIDjIBp19IBaIDsID019IBbIB4IDa1cIBbID9IC3IC81cIBbIDdIDaIDs19IBcIDdIDj19IBcIDjICu16IB" ++
  "eIBc19IBeICbIDs1cIBdID5IDaIDs1cIBeIDbIC0IDs16IBdIDd1fIBdIDdIBgID9ID01iIBdIDdID1IDsIC8IDb1fIB" ++
  "dIDdIDfIC3IC819IBgID9ID01fIBgID9ID0IC8IDj1fIBfIDbIBsIB4IDd1cIBfIDdIDsICd19IBhIDsIBp19IBjIDbI" ++
  "Ca19IBjIDsICt1cIBlIB4IBfIDb1fIBlIDjIC1IDsID01cIBnIDaIDjIBg19IBrIDjIC119IBrIDjIC819IC0IDsIBp1" ++
  "6IC7IBn16IC9IDb16IC8IDj16ICaICe19ICeIC3IC819ICfIB4IC41fIChIDsIBrIDjIC819IChIDsIC41cICgIDsIDc" ++
  "IDb1fICkIB2IBpIC8IDb19ICkIBfIDb16ICkIBj16ICjIDb1fIClIB1ID9IC3IC91cIClIB3IDsIC81fICmIC3IBnIB7" ++
  "IDb19IClID9IDj1fICoIBfIBvIDsIDb16ICqIBt19ICqICbICi19ICoIDbIC419ICqIDjIBp19ICqIDsIBo19ICpIDsI" ++
  "Bv1cICtIB4IDjIC819ICsIDbIC816ICrIDj19ICtIDjIC919ICrIDsIDb19ICrIDsIDj1cICuIB4IBfIDd19ICuIB4ID" ++
  "b19ICuIC3ICf19ICuIDbIBf1fICuIDjIBnID7IDj1cICvIBfIDdIDj16ICvIDa1fICvIDaICgIDsIDb16ID1IBc1cID1" ++
  "IBcIC8IDj1cID1IDsIC8IDb19ID4IDsIC919ID4IDsIDb19ID6IB2IDj1cIDaIC3IC8IDb16IDaID919IDbICkIDs1cI" ++
  "DbIDsICmIDb16IDcID01fIDcIDjIC8IBiIDj19IDfIC3IC816xgYBp16xhYBp16xiYBp16xjYBp16xkYBp16xlYBp16x" ++
  "mYBp16xnYBp16xoYBp16xpYBp19xhxgYBp19xhxhYBp19xhxiYBp19xhxjYBp19xhxkYBp19xhxlYBp19xhxmYBp19xh" ++
  "xnYBp19xhxoYBp19xhxpYBp19xixgYBp19xixhYBp19xixiYBp19xixjYBp19xixkYBp19z8zgz116z4z116z1zl19z2" ++
  "z1zi16zfzm16zgz316z4zd19z4zdxi19z4zdxj16z9zl16TPjUMg16VNdRAc16SF7WX316VMeXBr1cWxaTUfPUq-Fu16" ++
  "zgz116zez116Zsz116zdz116zbz116zbz216zdz216z7z219z3z1zc1czbz3z1zc16zgz616zez616Zsz616Zsz716zd" ++
  "z716zbz716z8zq19zbz8zq19zdz8zq19z7z8zq19zkz8zq16Zszc16zdzc16z4zc16zbzc16z6zd16zezd16Zszd16zd" ++
  "zd16z3zd16zbzd19zdzdxi19z3zdxi16zdxi19zbzdxi19zdzdxj19z3zdxj16zdxj19zbzdxj19zdEMlzj1czdEMlzj" ++
  "xi16zgz119zbzgz119zdzgz119z7zgz119ziz1z41fziz1z4EMlzj1iziz1z4EMlzjxi16zgzj16zezj16Zszj16zdzj" ++
  "16zgzm16zezm16Zszm16zdzm16zbzm16zdzm16zgzn16zezn16Zszn16zdzn16zbzn16zdzn16zb-916zd-926z2zh16" ++
  "z3z316z3z41cz3EMlzbz726z4z216z7zp16z8z116z8zg16z9ze16zbzb16zbzd16zbzk16zczd16zcze19zczfz716z" ++
  "czo16zdz219zdz9zc19zdzfzc16zgz829zgzgzd16zgzi16zjzi16zjzm16znz219zmEMlzd19z1EMlzd16xhVL516xi" ++
  "VL516xjVL516xkVL516xlVL516xmVL516xnVL516xoVL516xpVL519xhxgVL519xhxhVL519xhxiVL519xhxjVL519xh" ++
  "xkVL519xhxlVL519xhxmVL519xhxnVL519xhxoVL519xhxpVL519xixgVL519xixhVL519xixiVL519xixjVL519xixk" ++
  "VL519xixlVL519xixmVL519xixnVL519xixoVL519xixpVL519xjxgVL519xjxhVL519z7z1zcYO1y7xFO1y0xcxFQ1s" ++
  "3xya13xycA5nxFV3gyvxFVjxu3xFXf98xFXq43DHp1hxFXvd3xFYc23P538xFYh6x0xFYnk3P613Os13P113Pc13Pa23" ++
  "Qu13Q713Qt13xGWj1qxFZlg3xFYk13Q213DIe18xF-843P41qxF-dg3Irl3zj13z313z613zh13xF_m33F713GjX33xF" ++
  "V713xGVn13Pb13xGWia3Qd7DhAZ0PIg3xzy813VTk13xzSa13xzC813XSh13PNi13Q_513xDYs13xDYs13SGh13xAKh1" ++
  "3RI713SG813ULm13ZP913_Y513xxNv13xxZq13xyDo13xAAf13WM213XEr13YCp13Y-u13xxxt13xAHa13xCLh13PQ21" ++
  "3QXl13WU413YMr13xxNd13xDMu13TGg13X_b13xxKd13xyH413US913xwKo13xywv13TSa13VUn13XHa13YTs13xACe1" ++
  "3PY613QJn13QSu13VC413WSj13YMg13ZT713xww113xxM613xxOs13xzLf13xBVi13xCXf13xDLq13-Ac13-Hv13_J01" ++
  "3xw-913xAU413xDPv13xySm13SCv13TU413_z013xwzu13YP213-Ca13xzC213xBTn13SCo13Tz213WMj13XKq13XUf1" ++
  "3_Ff13_Nn13xBOb13QSi13xwAb13QKs13QKc13-Ms13_Ju13xw_h13xBPl13xyY013USf13WM213xyTu13PNp13S_713" ++
  "Uwi13YY713ZHg13QUn13-Dr13PZv13TZ913PMd13XCc13VHo13_F213Q-313Syu13ZU113xxy913xyRa13WZq13xzZg1" ++
  "3XA813UTu13xwT513UZ013ZH513PRe13QH913QK913WA113_D713xwPf13xySi13xAKf13QTl13Ry213SHj13TTc13VK" ++
  "513X_u13-Fa13xBJd13xCPa13xDQn13xDSe13QQr13VS613WXn13xzX213TPk13UIg13UM013VAq13XV313YG913ZA91" ++
  "3-Ka13_Lk13xwzf13xzV613xxDe13xAx313xAWa13QMn13QR313RBt13YC813xyC213xyRa13TS913T_l13UXr13WZe1" ++
  "3_xu13YXl13PT413RTp13S_713TJq13Uws13YZi13Zz913_Yq13xwy613xANk13xBTm13xBW813xCwo13PYb13-Je13x" ++
  "AJk13xBRo13UD113PQ613QCq13S_e13Txv13VIp13WM213YKe13ZO213xxDs13xAzs13xDYd13VQ813xBNe13QQ913VX" ++
  "r13V_j13XG113XQs13Zw913ZGp13-zb13_Eg13xCyu13QHd13UNe13xBPo13Qxb13TEp13XLa13xzVa13TYb13UG413W" ++
  "wn13YY713xBQ613QN913Rwf13Tz513VMj13VWe13WB813XD513Zw613ZL213_Xp13xyCf13xyD113xAKc13xBT213QVv" ++
  "13XRq13Rwt13YKg13ZAo13xxLq13xBR313xDyn13xDQv13VYn13XKb13xwL813-Sb13-V013_Ai13YS013YAp13xyWo1" ++
  "3PS013xwVm13QNq13QM713TR613USj13_Cm13SY513XEu13VRk13xzVr13xyyc13xBOd13xyIb13TSj13QG013RK033S" ++
  "yq23VPk33QKu13YVa13ZSa13-Fs13-Gu13-H513-If13xBWm13_Bu13_Zt23xxMi23xyTo33xAxo13xADt43xCDf13xC" ++
  "Ds13xCF813xDJk13xACu13xBRn13PZe13QD713QGd13QS913QT413QWh13RIt13RM613RP813Sy013SB813Tz413Tze1" ++
  "3UAk13UH813UIe13ULi13VGf13VL213VQh13WA513XHn13XMq13XV213YHe13YNb13Zx213-Ah13-Fu13-G913-G813-" ++
  "Gg13-Gm13-Gt17-Id23-O013-Q113--013_Lk13_M913_O113_Xi13xww513xwLd13xwPp13xwPp13xxyn13xyEg13xy" ++
  "Im13xyU113xyVp13xzCj13xzE813xzZm13xAxo13xBT313xB_v13xCxr13Uzl13AMTe13xwMo33PN613QJl13QH813PY" ++
  "013QG513QI013QS713QTq13RIt13RGl13RIp13RL213Syq13SBj13SG413SGk13SP213SV813TSi13TSp13TX913TZd1" ++
  "3UCo13UGe13UE813UIe13UH013ULi13UNk13U-413Vws13Vyi13VGm13VPk13VUn13VUr13VWm13WXp13WZq13XG113X" ++
  "Sr13XSb13XV213Ywu13YHe13ZZ713YNl13YRf13YVa13Zzh13ZE613ZFr13ZMt13ZMv13ZSa13ZSr13ZTk13ZWa13ZW0" ++
  "13-Cc13-Rh13--013_zr13_Gr13_Lk13_Vu13xww513xwWi13xw_f13xxXp13xyG113xyI613xyIm13xyRv13xyTo13x" ++
  "ySb13xyU113xyTu13xyTd13xyVp13xyYa13xzE813xzVo13xAzi13xAIp13xAPm13xBPs13xBT313xBWm13xB-r13xB_" ++
  "v13xCwb13xCxr13xCUi13xDYs13AGya13AGy413AI-l13KYt13Mwo13Mxp13AQO913ATCg13A_Sj13xDW313xDYex76z" ++
  "6z616z6z916z6zc19z6z6z919z6z6zc16zjzk16zjzkd6xHkxHm16xHkxH516xHkxHb16xHuxHm16xHkxHd66xKpxJk2" ++
  "6xLixJn13xL213xKg17xKj2axKr33xL813xLa13xb16xL9xK116xL9xK219xL9xJsxK119xL9xJsxK216xKgxJn16xKg" ++
  "xJo16xKgxJs16xKhxJs16xKixJs16xKjxJs16xKkxJs16xKlxJs16xKmxJs26xKoxJs16xKpxJs16xKqxJs16xKrxJs1" ++
  "6xKsxJs26xKuxJs26xL0xJs16xL1xJs26xL3xJs16xL4xJs26xL6xJs16xL7xJs16xL8xJs16xL9xJs16xLaxJs16xKl" ++
  "xJp16xKhxJv16xKrxJv16xL4xJv16xKgxKs13xPh13xPh13xPr13xPr13xPr13xPr13xPu13xPu13xPu13xPu13xQ013" ++
  "xQ013xQ013xQ013xPq13xPq13xPq13xPq13xPv13xPv13xPv13xPv13xPp13xPp13xPp13xPp13xR413xR413xR413xR" ++
  "413xR613xR613xR613xR613xQ413xQ413xQ413xQ413xQ313xQ313xQ313xQ313xQ613xQ613xQ617xQ623xQ713xQ71" ++
  "3xQ713xQd13xQd13xQc13xQc13xQe13xQe13xQ813xQ813xQo13xQo13xQh13xQh13xR913xR913xR913xR913xRf13x" ++
  "Rf13xRf13xRf13xRj13xRj13xRj13xRj13xRh13xRh13xRh13xRh13xRq17xRq23xRr13xRr13xRr13xS017xS023xS1" ++
  "13xS113xS113xRu13xRu13xRu13xRu13xSi17xSi23xSjx23xRd13xRd13xRd13xRd13xS713xS713xS613xS613xS81" ++
  "3xS816xS7xPk13xSb13xSb13xS513xS513xS913xS913xSg13xSg13xSg13xSg13xO913xO916xN6xN716xN6xN716xN" ++
  "6xSl16xN6xSl16xN6xO816xN6xO816xN6xS716xN6xS716xN6xS616xN6xS616xN6xS816xN6xS816xN6xSg16xN6xSg" ++
  "16xN6xSg16xN6xO916xN6xO916xN6xO913xSc13xSc13xSc13xSc16xN6xNc16xN6xNd16xN6xO516xN6xO916xN6xOa" ++
  "16xN8xNc16xN8xNd16xN8xNe16xN8xO516xN8xO916xN8xOa16xNaxNc16xNaxNd16xNaxNe16xNaxO516xNaxO916xN" ++
  "axOa16xNbxNc16xNbxO516xNbxO916xNbxOa16xNcxNd16xNcxO516xNdxNc16xNdxO516xNexNc16xNexNd16xNexO5" ++
  "16xNjxNc16xNjxNd16xNjxNe16xNjxO516xNlxNd16xNlxO516xNmxNc16xNmxNd16xNmxNe16xNmxO516xNnxNd16xN" ++
  "nxO516xNoxO516xNpxNc16xNpxO516xNqxNc16xNqxO516xO1xNc16xO1xNd16xO1xNe16xO1xO516xO1xO916xO1xOa" ++
  "16xO2xNd16xO2xO516xO2xO916xO2xOa16xO3xN716xO3xNc16xO3xNd16xO3xNe16xO3xO416xO3xO516xO3xO916xO" ++
  "3xOa16xO4xNc16xO4xNd16xO4xNe16xO4xO516xO4xO916xO4xOa16xO5xNc16xO5xNd16xO5xNe16xO5xO516xO5xO9" ++
  "16xO5xOa16xO6xNc16xO6xNd16xO6xNe16xO6xO516xO6xO916xO6xOa16xO7xNc16xO7xO516xO7xO916xO7xOa16xO" ++
  "axNc16xOaxNd16xOaxNe16xOaxO516xOaxO916xOaxOa16xNgxPg16xNhxPg16xO9xPg19x0xOcxOh19x0xOdxOh19x0" ++
  "xOexOh19x0xOfxOh19x0xOgxOh19x0xOhxPg16xN6xNh16xN6xNi16xN6xO516xN6xO616xN6xO916xN6xOa16xN8xNh" ++
  "16xN8xNi16xN8xO516xN8xO616xN8xO916xN8xOa16xNaxNh16xNaxNi16xNaxO516xNaxO616xNaxO916xNaxOa16xN" ++
  "bxNh16xNbxNi16xNbxO516xNbxO616xNbxO916xNbxOa16xO1xO916xO1xOa16xO2xO916xO2xOa16xO3xN716xO3xO4" ++
  "16xO3xO516xO3xO916xO3xOa16xO4xO516xO4xO916xO4xOa16xO5xN716xO5xO516xO6xNh16xO6xNi16xO6xO516xO" ++
  "6xO616xO6xO916xO6xOa16xO9xPg16xOaxNh16xOaxNi16xOaxO516xOaxO616xOaxO916xOaxOa16xN6xNc16xN6xNd" ++
  "16xN6xNe16xN6xO516xN6xO716xN8xNc16xN8xNd16xN8xNe16xN8xO516xN8xO716xNaxNc16xNaxNd16xNaxNe16xN" ++
  "axO516xNaxO716xNbxO516xNcxNd16xNcxO516xNdxNc16xNdxO516xNexNc16xNexO516xNjxNc16xNjxNd16xNjxNe" ++
  "16xNjxO516xNlxNd16xNlxNe16xNlxO516xNmxNc16xNmxNd16xNmxNe16xNmxO516xNnxNd16xNoxO516xNpxNc16xN" ++
  "pxO516xNqxNc16xNqxO516xO1xNc16xO1xNd16xO1xNe16xO1xO516xO2xNd16xO2xO516xO3xNc16xO3xNd16xO3xNe" ++
  "16xO3xO416xO3xO516xO4xNc16xO4xNd16xO4xNe16xO4xO516xO4xO716xO5xNc16xO5xNd16xO5xNe16xO5xO516xO" ++
  "6xNc16xO6xNd16xO6xNe16xO6xO516xO6xO716xO7xNc16xO7xO516xO7xPg16xOaxNc16xOaxNd16xOaxNe16xOaxO5" ++
  "16xOaxO716xN6xO516xN6xO716xN8xO516xN8xO716xNaxO516xNaxO716xNbxO516xNbxO716xNjxO516xNjxO716xN" ++
  "kxO516xNkxO716xO3xO416xO3xO516xO4xO516xO6xO516xO6xO716xOaxO516xOaxO719xO0xOexOh19xO0xOfxOh19" ++
  "xO0xOgxOh16xNnxO916xNnxOa16xNpxO916xNpxOa16xNqxO916xNqxOa16xNjxO916xNjxOa16xNkxO916xNkxOa16x" ++
  "NdxO916xNdxOa16xNcxO916xNcxOa16xNexO916xNexOa16xNlxO916xNlxOa16xNmxO916xNmxOa16xNkxNc16xNkxN" ++
  "d16xNkxNe16xNkxO516xNkxNh16xNjxNh16xNlxNh16xNmxNh16xNnxO916xNnxOa16xNpxO916xNpxOa16xNqxO916x" ++
  "NqxOa16xNjxO916xNjxOa16xNkxO916xNkxOa16xNdxO916xNdxOa16xNcxO916xNcxOa16xNexO916xNexOa16xNlxO" ++
  "916xNlxOa16xNmxO916xNmxOa16xNkxNc16xNkxNd16xNkxNe16xNkxO516xNkxNh16xNjxNh16xNlxNh16xNmxNh16x" ++
  "NkxNc16xNkxNd16xNkxNe16xNkxO516xNjxO716xNkxO716xNnxO516xNjxNc16xNjxNd16xNjxNe16xNkxNc16xNkxN" ++
  "d16xNkxNe16xNnxO516xNoxO516xN7xOb16xN7xObj9xNaxNcxO519xNaxNdxNc19xNaxNdxNc19xNaxNdxO519xNaxN" ++
  "exO519xNaxO5xNc19xNaxO5xNd19xNaxO5xNe19xNcxO5xNd19xNcxO5xNd19xNdxO5xOa19xNdxO5xO919xNjxNdxNc" ++
  "19xNjxNcxNd19xNjxNcxO919xNjxO5xNd19xNjxO5xNd19xNjxO5xNc19xNjxO5xO519xNjxO5xO519xNlxNdxNd19xN" ++
  "lxNdxNd19xNlxO5xO519xNkxNdxO519xNkxNdxO519xNkxNcxOa19xNkxO5xNe19xNkxO5xNe19xNkxO5xO519xNkxO5" ++
  "xO519xNmxNdxO919xNmxNexO519xNmxNexO519xNnxO5xNd19xNnxO5xNd19xNnxO5xO519xNnxO5xOa19xNpxNcxO51" ++
  "9xNpxO5xO519xNpxO5xO519xNpxO5xO919xNqxO5xO519xNqxO5xOa19xNqxO5xO919xO1xNexO519xO1xNexO519xO2" ++
  "xO5xNd19xO2xO5xO519xO4xNdxO519xO4xNdxOa19xO4xNdxO919xO4xNcxNc19xO4xNcxNc19xO4xNexO519xO4xNex" ++
  "O519xO4xO5xNd19xO4xO5xNd19xO5xNdxNc19xO5xNdxO519xO5xNdxOa19xO5xNcxNd19xO5xNcxO519xO5xNexNc19" ++
  "xO5xNexO539xO5xNcxNe19xO7xO5xNc19xO7xO5xO519xO6xNdxO519xO6xNdxO919xO6xNcxO519xO6xNcxO519xO6x" ++
  "NcxO919xO6xO5xOa19xO6xO5xO919xOaxO5xO519xOaxO5xO519xN8xNexOa19xNaxNcxOa19xNaxNcxO919xNaxNexO" ++
  "a19xNaxNexO919xNaxO5xOa19xNaxO5xO919xNcxO5xOa19xNcxNdxO919xNcxO5xO919xNjxNexO919xNlxNdxOa19x" ++
  "NkxNdxOa19xNmxNdxOa19xO4xNcxOa19xO4xO5xOa19xOaxNdxOa19xOaxNcxOa19xOaxO5xOa19xO5xO5xOa19xO2xO" ++
  "5xOa19xO6xNdxOa19xO2xO5xNd19xO4xNdxO519xNpxO5xOa19xO3xO5xOa19xO6xNcxNd19xO5xNexOa19xO4xNcxO5" ++
  "19xO3xO5xO519xO4xNcxO519xO6xNcxNd19xNcxNdxOa19xNdxNcxOa19xO5xNcxOa19xO1xO5xOa19xN8xNdxOa19xO" ++
  "3xO5xO519xNpxNcxO519xNlxO5xO519xNjxNexOa19xO6xNcxOax99xNlxO4xSi19xO2xO4xSi1cxN7xO4xO4xO71cxN" ++
  "7xO3xN8xNh1cxO5xNdxO5xNf1cxNlxO4xNpxO51cxNhxNjxO8xO41cxNpxO4xOaxO71cxO8xNjxO4xO519xNlxO4xO91" ++
  "xmxNlxO4xO9x0xN7xO4xO4xO7x0xNpxO4xOaxO7x0xO8xNjxO4xO51oxNcxO4x0xNcxO4xN7xO4xO71cxNhxScxN7xO4" ++
  "k3xc13Iw127xq23x113xv17Iwmq3Ewk13Ewj13yv13yv17x823zr13zt17Iwk27Iwg27Iwa27Iw82dIwc63yr13yt16x" ++
  "0U516x0U516x0U516x0U513yv13yv13yv13xc13Iw133xr13xq13xv13x113Ewk17x823zr13zt17Iwk23x313x617xa" ++
  "23xd13xs13xu13xt23ys17x423y056x0xOb16xO0xOb16x0xOc26x0xOd26x0xOe16xO0xOe16x0xOf16xO0xOf16x0x" ++
  "Og16xO0xOg16x0xOh16xO0xOh16x0xOi16xO0xOi17xN127xN227xN327xN427xN523xN613xN617xN627xN723xN813" ++
  "xN817xN827xN923xNa13xNa17xNa23xNb13xNb17xNb23xNc13xNc17xNc23xNd13xNd17xNd23xNe13xNe17xNe27xN" ++
  "f27xNg27xNh27xNi23xNj13xNj17xNj23xNk13xNk17xNk23xNl13xNl17xNl23xNm13xNm17xNm23xNn13xNn17xNn2" ++
  "3xNo13xNo17xNo23xNp13xNp17xNp23xNq13xNq13xNq13xO113xO113xO117xO123xO213xO217xO223xO313xO317x" ++
  "O323xO413xO417xO423xO513xO517xO523xO613xO617xO623xO713xO717xO727xO827xO923xOa13xOa13xOa16xO4" ++
  "xN216xO4xN216xO4xN316xO4xN316xO4xN516xO4xN516xO4xN716xO4xN75z1x1x0yfz1qzdyrx47GI523xe17Iwc23" ++
  "Iw113IDr13IDi13IB113IB313IB513IB713IB913ID313ID513ID713IC313IDs13IB213IB413IB613IB817IBa23IB" ++
  "d13IBf13IBh13IBj13IBl13IBn13IBp13IBr13IBt13IBv13IC113IC413IC613IC81jICa63ICi13ICl13ICo13ICr1" ++
  "gICu53ID413ID61jID863IDf13IDj17IAp37AE023AJa13AE217AJc2aAE33jAJg63AEq1aAE633AF11vAE9djAH18jA" ++
  "H78jAHd8aAHj67B223Bc16x0U413B613B513EB923FE21dEIg43FJ013FKbxwizpyxx8BgzdyxCoC0x2yxIncxeyxJ3g" ++
  "myxJj87yxJrLd7Sg23D613Qp13Oj23R313xGX613R513R417Om23DIh13Oo13Ou13R913P413P213P013Qr13F713Qs1" ++
  "3P713Q417Ra23Pc13zTU413xFYe13Pe13zTU513Qe13zTU613Do17Pm23zh13Pq13zTU817Pt23Q013R813R613xGX71" ++
  "3R713Q813Hzh23Qf17R123Qo1aK033zTUa13zTUuxC6AqyzC0Cgy3yzHgyWgz1yCC0RJ0z1yXP0z0ycyXRrTNmyfz1qv" ++
  "xgxze6zQGnzQH516zQGozQH519zQGozQH5zQHe19zQGozQH5zQHf19zQGozQH5zQHg19zQGozQH5zQHh19zQGozQH5zQ" ++
  "Hiyn6zQJpzQH516zQJqzQH519zQJpzQH5zQHe19zQJqzQH5zQHe19zQJpzQH5zQHf19zQJqzQH5zQHfO0yfz1qyfz1qy" ++
  "fz1qmz18xnz9iyfz1qyfz1q8z133z433z737za4dze5pzj8dz158z63jz97x2zgbyfz1qyfz1q7z13dz46pza9mzj8yf" ++
  "z1q7z13dz45gz963zf4mzj8yfz1qyfz1qyfz1qyfz1qyfz1qyfz1qyfz1qyfz1qyfz1qyfz1qyfz1qyfz1qyfz1q3Fh1" ++
  "3Nn3xkZhh3Zo1m-373EM71xkZhh3-31m-373EM213Zl13Zo13Zq13-613-113-01xkZhh3Zo1m-373EM71xkZhh3-31m" ++
  "-373EM213Zl13Zo13Zq13-613-113-01xkZhh3Zo1m-373EM71xkZhh3-31m-373EM213Zl13Zo13Zq13-613-113-01" ++
  "xkZhh3Zo1m-373EM71xkZhh3-31m-373EM213Zl13Zo13Zq13-613-113-01xkZhh3Zo1m-373EM71xkZhh3-31m-373" ++
  "EM213Zl13Zo13Zq13-613-113-013-t13-t3vxgavxgavxgavxgavxgyxqsxxg9axxq3x2xxub3xyb17xyd23xFQ913x" ++
  "Cp13xym13xyo13xD913xBf13xCf1sxxg97xxq27xxu23xy11jxy367xya23xAh13xym13xyl13xyv13xBb13xFOh13xB" ++
  "hyAjz7zWF2xE07xN723xNc13xNf23xO813xNi13xNd13xNn13xOa1dxO343xNj13xNp13xO113xNl13xO213xNh13xNk" ++
  "17xNa23xNe13xNg13xNm13xNo13xNq13xPe13xRq13xR113xPf23xN813xNc23xO733xNd23xOa1dxO343xNj13xNp13" ++
  "xO113xNl13xO223xNk17xNa23xNe23xNm23xNq73xNc53xNd23xOa28xO433xNj13xNp23xNl13xO223xNk33xNe23xN" ++
  "m23xNq23xRq23xPf23xN813xNc23xO733xNd13xNn13xOa18xO333xO613xNj13xNp13xO113xNl13xO223xNk17xNa2" ++
  "3xNe23xNm13xNo13xNq13xPe23xR127xN723xNc13xNf17xO723xNi13xNd13xNn13xOa2axO433xNj13xNp13xO113x" ++
  "Nl13xO213xNh13xNk17xNa23xNe13xNg13xNm13xNo13xNq63xN813xNc13xNf23xO813xNi13xNd13xNn13xOa2axO4" ++
  "33xNj13xNp13xO113xNl13xO213xNh13xNk17xNa23xNe13xNg13xNm13xNo13xNqO66xgxc16xhxc16xixc16xjxc16" ++
  "xkxc16xlxc16xmxc16xnxc16xoxc16xpxc69x8z1x919x8z2x919x8z3x919x8z4x919x8z5x919x8z6x919x8z7x919" ++
  "x8z8x919x8z9x919x8zax919x8zbx919x8zcx919x8zdx919x8zex919x8zfx919x8zgx919x8zhx919x8zix919x8zj" ++
  "x919x8zkx919x8zlx919x8zmx919x8znx919x8zox919x8zpx919x8zqx919IwkzjIwl13z313zi16z3z416znzq2yfz" ++
  "1q6z8zm16zdzm16zjz416zjzj19zgzgzm16znz3r6zdz316zdz416zdzix46z4zazg6IzrIyb16IBjIBj13IBle3UOb1" ++
  "3SWn13Q-c13IC713PQc13SEq13xyL313SF913PR413VN013YF113VIp13QOd13TYc13QId13VJg13QMt13_G213ZEv13" ++
  "xzB913SDg13Rxp13XUk13UQl13UWl13PM013PM913xAya13TL613PNd13Q_j13UU713xzHg13UOj13-I113-Pq13Rw81" ++
  "3XQ013VU913VU813ZFj13QPi13RJm13xAGd59IwkVVcIwl19IwkPM9Iwl19IwkPQcIwl19IwkSY9Iwl19IwkYBpIwl19" ++
  "IwkUOjIwl19IwkZSnIwl19IwkQStIwl19IwkVGnIwl83TYn13Q_fyIvvxgx_wg3PNt13PNo13PO113AwF213PX013PZe" ++
  "13PZr13Qw213Qzq13QAp13QD713QCf13JAu13AxNq13QGd13QGk13QH413QHn13AxEs13JBp13QH713QId13AxGb13QI" ++
  "n13QJ413PSc13QJc13QJl13BAKv13QLl13QM313JCv13QNr13QO613QPi13QPn13JEl13QS713QS913QT413QTq17QU5" ++
  "23QUn13QW913QWh13QWq13QXj13QXt13QXv13QXv13QXv13AyNc13Yzg13Q-a13Q-v13AyX313Q_b13Q_h13Rw613RAu" ++
  "13Rxo13Ry813Rz813RB213RDm13REg13RGj13RH313RI413RI413RIp13RJb13RJj13RK213RUm13RM613RUn13ROh13" ++
  "RPk13QM713SDe13R-e13R_k13Swd13RYb13Sxi13Sxh13SBc13ABD413SDi13SDn13SE613SEq13SF213SH213ABR813" ++
  "ABTa13SLc13SMr13SN713SKo13SP613JTe13JTs13SU813SVu13SVu13ACK813S-313S-o13S_713S_j13ACUo13S_v1" ++
  "3Tw613TWj13Tx213JY113Tz013Tze13TC013TAd13ADL413TG313ADL613THe13THb13THs17TL123Kxf13TLt13TN81" ++
  "3TNt13TP913Kz213AEI313Kzs13TRg13TRj13TRm13TSa13BEYi13TTu13AEVh13AEVh13xwM113TV213TV213KC713A" ++
  "IRo13AUKq13TX213TXb13KD313TYq13T-d13T-n13T_p13UA113KFq13KEs13UAk13AFSk13UC713UG813UGc13UGe13" ++
  "UGc13UHq13UIe13UJi13UJ413UJf13UKu13ULi13ULm13UMg13UMr13UOt13URh13USk13UWg13AGUc13UVt13UTs13U" ++
  "X813UY313U_413AG_h13Vx213U-513UZ913KNe13Vz913Vzu13VAt13Vzn13KPc13VGf13VHc13AIwa13VL313VTo13V" ++
  "O913KUp13VQh13KU813KT413QIi13QIl13VU013VQs13xwBd13M-p13VUn13VUr13VV113VWu13VWj13AI-313KW913V" ++
  "_q13VY513Wyi13WA513AJzd13WAe13Wwv13WEk13KYt13WG213WJ313WLa13WR813AJR313WSr13Lwo13WV113AKB713" ++
  "WWk13Lye13WXi13WYv17WZq23AKQd13ADEb13AKTq13Xye13ALBs13XBv13XCd13Xz713XEm13XFu13XHn13XG113XH9" ++
  "13XHo13XI513ALEu13XFk13XNf13XPe13LFj13XSb13XS713ALSh13XLp13XXe13ALWu13ALYe13X-613Yxp13Ywu13Y" ++
  "wr13LIm13Yya13Yzt13Yzn13YBd13AxF513YG513AMP313YIs13AMZb13YN813YNl13YOg13ANM813YQ013YQl13ANVl" ++
  "13AOwk13YXq13YYb13LRc13YZ513LRo13LRo13Zy713Zys13Zzh13ZA513ZCa13LUr13ZF413APxm13ZFu13APAi13ZH" ++
  "g13AEIv13ZMg13APZ113APZo13AQy413L_s13Mw813ZTk13AQDj13AQDi13AQEp13AQFj17ZUu23ZUv13ZWa13Mxp13Z" ++
  "Yb13My613MAm13ARwt13-ye13-Ac13-Cc13MD313ARN613-Gm13ARQq13ARS513-If13-Lb13MFf13-O013-Oa13-Of1" ++
  "3ASHs13ASR713ASR713-Te13MM213ASZb13--613--913MN713ATA013_Ci13MR013_D813_D313_E013ATY613_H313" ++
  "MU113_K713_M213_O513MVk13AUN813AUO713MWp13AUSp13_Xq13AUVu13_Yl13__q13xww513AVCq13AVF313xwz01" ++
  "3AVJ813xwzg13AIWv13M-l13xwBi13xwE313Nwb13xwFu13SRl13AVZ713AVZl13AIYj13AIYs13xwM113xwM413xzYu" ++
  "13Nzb13xwQh13xwQb13xwQt13QRj13xwRh13xwRj13xwRt13xwT613AWVs13xwT513xwUt13xwX313xwZd13xwV313xw" ++
  "Zt13xw_713xxyn13xwWj13xw-a13xw-c13xw-s13AXxm13AXHb13AXCl13NFb13xxDh13xxDj13xxEm13AY-a13xxH41" ++
  "3AXVc13NGt13NH113AXZh13AYCi13NHb13xxOg13xxOs13xxP713xxP913xxR913xxQ813xxUe13xxT213xxXp13xxV8" ++
  "13xxXb13xxY613NKn13xx_113xyw113NLp13xyz013xyz313AZP713xyCn13xyCu13NNl13xyDq13JBr13A-Be13A-H6" ++
  "13NRu13NS713xyR013xyTd13xyYa13xzyl13A_B813xzBb13xzC113xzEr13xzHn13A_Vf13Ayw413xzKb13xzJs13xz" ++
  "Lg13AyCu13xzSk13xzVo13BxKi13BxLd13xAAk13xADh13xAEh13BxVe13xAEr13xANo17xASn23xAPs13xA_p13xBwl" ++
  "13By_q13xBIb13OIl13xBJn13BzHn13OL613xBS313TJi13xBV313BAG513BAMq13OPe13OPm13xB_013BBwa13ORi13" ++
  "BBAm13xCwb13xCwb13xCx913BBJm13xCD213OVj13xCF913xCJ713xCK213xCLu13O-e13BCVg13xCUi13xDy013xDDt" ++
  "13PCe13PDd13xDH713BECe13PDo13BEE513BEMe13BEQh13xDRr13PGm13xDTp13xDTu13xDU513xDUf13xDUm13xDVr" ++
  "13BFM0"

end Domain

end Format

end DocumentModel
