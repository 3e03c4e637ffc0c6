import DocumentModel.Text.CharRanges

/-!
# Ages

The characters that each version of the Unicode standard added, oldest version first.
-/

namespace DocumentModel

namespace Pattern

/-- The versions: names and written ranges. -/
def ageTable : List (List String × String) := [
  (["1.1", "v11"],
    "0Ll4txoyo7xe19my5q1i1403056101j1xb16301010101hdb1y11b1x89xk21213r2721xnx5261x610x6918cq5" ++
    "4n0e0301p5idd2y7241e1t29M721xk2h243og217212l161033201621229041142k7025412l16111111201441" ++
    "22b3107ec21610121l16111429121220f059h217212l1611232731228141124ah11532133110113132371244" ++
    "321390fbe217121m1914461213719149i117121m191446121371701149i117121m1f452213908149Ahxp4sx5" ++
    "1102110206316121010211c122410152921K2x5ax6404yp5y35yhzw6Aq5yp6l252x525271010101u2xk1e1d2" ++
    "51i22181xe1mx363qhax5huxoqxfdyqlDhe01zoA5x4ralAalAlayfgj6ylAh3132r1x21013301626eu3n1dyy1" ++
    "xn701yj452yt6x74yt1fz0s3x3sr3xhfb4xe1zm4z22uCM1QJ5MyqCNdCi6c46o141011111zbx1Hcgxv2xlx8bx" ++
    "43ck491i1342101A6201yt2yt352525223616e2"),
  (["2.0", "v20"],
    "xIhg1ck0yFry71x07q45101k3610zT10Mf0xyWkGZ3yGyq1x__u1x__u1x__u1x__u1x__u1x__u1x__u1x__u1x" ++
    "__u1x__u1x__u1x__u1x__uAww1"),
  (["2.1", "v21"],
    "EBc0xTWf0"),
  (["3.0", "v30"],
    "Lm3u72hzl4xh0a4yn8j0zk030101010u0c0y20c0xa123ys1As0C82z2150f0xa41d1t3qxlxgxKh11h3n181026" ++
    "30451017i2Hl0xb0n270121e20xgx1141116336pJ661xu10132610132x610132u101326101326161m1u10132" ++
    "61x61i6rx3ykcPl9s3ygAfys39me196yn8x9xY50o5yv2xi1yl1y80z78Ed0zp01tAa1K97x10ym1IeDvxI0p1yo" ++
    "cClqbxs230H1nO8CJlQOaxAc3h2f1b1210ROm0xCr2"),
  (["3.1", "v31"],
    "_k1x-KqvxEgu13cqBlx52x5xOZiDlax63BjN2yk1y6112021231b1013111y01327161r131410361Gh4F14xhGw" ++
    "0xFSmQF9MtSxL30uyv"),
  (["3.2", "v32"],
    "N00Fe0jcz81s0Aj1xp12121xhfGu1G10yG51xM7c16bm9jcc1211yCj0644074d0xu1xi6yieB8bDidzs0uxjEsj" ++
    "An9yo7m1yqb29Cudyqr4fE0LvxFr2yn181yu0DgfyheyheYL21g0c030RHaxqYh03fxl1xc0Db1"),
  (["4.0", "v40"],
    "N10i2zn1xvgyg752An4M4398y02Al1f0xd2t2Jk0Bo0y3010A80yk2d0y30xr0A17C11yUv0i9E6s3b4b403x924" ++
    "zbvU0zbT71D60Qj1Fe0Ek1zk7e1xyudxUf1xh0xb1ye3B73z31v0CK0xvxH_t0y91Jnb1p1i111e2dx2zq524xc3" ++
    "8O0t10A61x6yf29Wm5201xb113020xOS0ymHa0UHxuDf"),
  (["4.1", "v41"],
    "NnaEm4Av3Dm1Ba0x22y30i0xq5DhtMf0yg0L70xf0_91F7110Ea0xv0xv0x70v0v0v0f0x70n1vpxL6x96p6941x" ++
    "0r21WcynQh116xh4t3xl0yg0f0Q4aNs0z51ia5fEe6W75Dcxe1xex1zaexcaxl90gm9616161616161616x1n41Z" ++
    "2fBe0XF7lxW4mD9xbQO4z9Vm9V6yaMlx34dxNa31157121q424888xNZ7y5xyu1"),
  (["5.0", "v50"],
    "O2dFb2Gh0xa5g3B60M5xqI0111X21d1zMdyb4xcO76xj1Tc3yt1xl0OnbSa0Ek3W9653Fsc73-Qv351EuxnUA8p5" ++
    "0BT0XeAhz2d3xHTchxyo1"),
  (["5.1", "v51"],
    "Xg321yn0Bn0AcfD24b4x04FehLh1Cu0x30Ce0t1zc0zc0q181k7Bt060t1c536Lb1z1032yd050207245qxv41yw" ++
    "a0Slxa3by6xn3e3xiGbrBl3yq5H40Ab0yu0xl3xEk0l933E80v3Vb44x834Eo21245H2vo32iTs0B2jXKo7xFsFb" ++
    "kv2h8rA342zaze4A0y49bx6yjb0B0xm9d2923Q-42X9bxkxdA2s3xgxOfp50xN_90DSmxb4z3"),
  (["5.2", "v52"],
    "xF41Sqxd2eC10yd060x31A00xKp3C13Bs4y44yi5M00Pm8Ngy5Bk1xe0y5xu1s2a696dN2x2Ea0Ro2An2xm0Ou0R" ++
    "l1t2491i104nyn0_t4Em0d1zb6Fv0xwibXHk7xE4xfJ0ynFo9B6rz4s3yd1a41A0r4y2o4D0xd29GZmm4xgEPf2z" ++
    "Kil18Bq1G4vA0xl3s2q57A0y8MnuM1y1DVuxxexLCha5u20b0102030348070p01120a320zf0fx1e8xJBnAxk"),
  (["6.0", "v60"],
    "xF61Do0xu0L0r20Cr1j061r4Lq5Jh0g0j0Nt3y91Y21yz1xj83Ls0Qo7s0VfaSq0j013t041s0x30104291xk2o0" ++
    "e0e1xJ00e0xxo2ZB51Fb111e9yg0U6525259616QA3fBxuyd4tRYgNoNK71MAue2d2e1eyg01a10111212571619" ++
    "681021194119ybp11xf8l1Bex0f51y53jcx414lgfxu101Bl133xtinAj41f1210101012152310231b4axgy5xq" ++
    "zjxL-cCt"),
  (["6.1", "v61"],
    "xIf0zk0Qr01axnqLh0_d1L7050xf2yRb2c5E07xb3ySk010xF41xj050xo1Ca9YIg0xR77x30Di1m0yd1T6mPVn1" ++
    "zWgxn61xUgo796xk1dxsy879xB6xn89Sxmy4bxegg_P031q11102019131010604010101211102010101010111" ++
    "02316131310191g52141gxk1Po1-k3Bs0g0301010103061401140"),
  (["6.2", "v62"],
    "EBq0"),
  (["6.3", "v63"],
    "xMs0CO93"),
  (["7.0", "v70"],
    "Xv0J87yt1zm0Qr0b5yc0zo070Pv0xj0yc0zv0D49yE17N41IheNp1DdeS52Vm6U50xyc2ap2v2x13b17Pa6-yl5D" ++
    "mbb221y50L8uzt3Bgxf41QS16Wt1j0Fvrx30xgxaI5x78xjb0AgFm9la7Doxu88Kgvx0x64bA9h73c6xCf0Cgx6y" ++
    "m0c06jbh1xazixq597217212l16111428212290562634Eby789B6xl2hxmy4b9O6yic0K0xoyzmx9Cab50NKbu1" ++
    "941z0t25ay5a9161k5iQzgza5c387927GWsC42fx_80x0ll1Mkb90y60mbx50535bh6y7010Bm041xv146th1x81" ++
    "yly61dxfy69gc33Acykxbb4xn896x78t"),
  (["8.0", "v80"],
    "yBj1xe0Ml0H00E40xQl025zC00Cb1yP03Y-t8xS80Dg0x25G41P23cyfQPe1yRgi1154Bs12f2xdQ0xidxi75xC9" ++
    "3e4B0610131e1aym0yf0PpjF2p3e4fzyp0D6C3DRsO6xyYnaxMnQbf41eCzt2ye1yf4x47Dv0yb4Dj1Ab0Nv8z74" ++
    "xr0xLOvBQ1"),
  (["9.0", "v90"],
    "yBm7meYt0Ce04216n2zU78Hi0xLv3yO41-H90Em0SC71V1x34x3zG20K1yp1010M2cxIj81xc1das3v2l1dQV90v" ++
    "B_cjTiREd61g261114yClya5941yxrhAe0Vu0x90Fc1x12N2517802b1b4ex6c"),
  (["10.0", "v100"],
    "yz0aIh1Ds5M00xq1zZq0Du3S50Vv0x-i0Pi4T40XR7kUW22BSgy78xj2m14Ot6111xb30111889QQ70Mx0EsyhIb" ++
    "LX45xzd1x21M7bj08711p0icx65xomxRC9DFg"),
  (["11.0", "v110"],
    "xH00x70z60Md2Cj0Fa0zn0Id0zv0y_j0xwnxa22zTq2mo4eOb4T00XRr4xZv081G41UFk1i0Rnx789K6x78x9Hj0" ++
    "zm2Lk0F20Rr0D5xrP10S25111x4111579FmoPW7yqCGi4OTejzu6CDoy3xzq0xK90Cr3Hk2s4233013oad971x4o" ++
    "z0d"),
  (["12.0", "v120"],
    "zzn0Me020201540707120d0zNv0zSe0xl0Of0-Ha524Yv1Vzomxz80Oo0T772xd2aAv1xFqxhd0Bxg8KUc540xf8" ++
    "yq1Cwe5GGo2h3HYoxc3d2941Hgxp50xOb0Zlxsxxe0xH80x40D5bF12xf0xh090x9531a53722xgyjs34252d5"),
  (["12.1", "v121"],
    "ITv0"),
  (["13.0", "v130"],
    "yBu9Qd0Je0zs0zFt1ACm0Ro2X84C_m9QNgcx-a3xa1xl0Vr3RNg0zD3x91221DurHr0A61Qa051xAu62027111t1" ++
    "12b99xOm0Qxj0b1CU1L2xa8Vw42yt2xt0xF81x31Jj1yq0z5041xa162t0B80e3fi7692d6x9Ai1xmx59xGSt6SF" ++
    "2AWa"),
  (["14.0", "v140"],
    "xMt0Oiu1167l0iaX90x00zv0yNf07090Df0Rhdzt0xg1Pr0S50yXe0xf0LjaYIv2x-01e11014o2Q-d0Htfzv0xe" ++
    "1xXga1e16111a1e1611K351x918xZlpD65yc0xLm0A66X9fBCgz2KPtye19NF631611F03DKtxd2m9zjN51zEluX" ++
    "huxFh613111ezSu2Eg0I80yi0Be1xc3a382h26786xG_71Ayl3"),
  (["15.0", "v150"],
    "zDj0Kq0ywxe2Vv2yBu9_mg1x83rBCl09s_Cs0x20EHajzyh5E5xtx10xy0x9AL20An244yp0Qr2f1x42b210e1a1" ++
    "c0e1xLy00TwmAyv"),
  (["15.1", "v151"],
    "H_s3Lf0BKM0Pd"),
  (["16.0", "v160"],
    "yAn0ARm1xf0E91xYs2zJq1ZL52c2TL3xjxWcx53s81Fi2xn0xA3910201x519102013191181TdjxCsx1e9X00BE" ++
    "5zYqDE5xpzw6xpDY50LU0Dp6JjBUsxa40ARi941K7050xe070l02090D1x4")]

end Pattern

end DocumentModel
