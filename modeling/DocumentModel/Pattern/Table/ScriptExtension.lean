import DocumentModel.Text.CharRanges

/-!
# Script extensions

The characters that are used with a script, for the scripts that share characters with others.
-/

namespace DocumentModel

namespace Pattern

/-- The scripts whose extensions differ from the script itself: names and written ranges. -/
def scriptExtensionTable : List (List String × String) := [
  (["adlam", "adlm"],
    "xMv0x00CMe0zLh0zKRuyb4941"),
  (["caucasianalbanian", "aghb"],
    "U40xc0xc0ywKhxjb0"),
  (["arabic", "arab"],
    "xM041Cm1x1ygxfDgu115ya1sBWf0zLh0xPEezigJs2xl70x0fzg41A6_3ryX4uy32xn3xTU031q1110201913101" ++
    "060401010121110201010101011102316131310191g52141gxk1"),
  (["armenian", "armn"],
    "U80N8x52xh22xZI34"),
  (["avestan", "avst"],
    "Bn0HHo1xTCexl36"),
  (["bengali", "beng"],
    "Rs0xQk1h1q317212l1610332821238041142oASh01021108080204022xy_p0"),
  (["bopomofo", "bopo"],
    "S7012d0g1HEl2491ca32060C309xazgvxPA51Eq4"),
  (["buginese", "bugi"],
    "CM0r21xzZf0"),
  (["buhid", "buhd"],
    "BVl19j"),
  (["chakma", "cakm"],
    "yL69xOg9ywBmxk1h"),
  (["carian", "cari"],
    "Bn0DZ2020zKj0xRzexg"),
  (["cherokee", "cher"],
    "U021061m1b1Azeyl25xBXiyf"),
  (["coptic", "copt", "qaac"],
    "Bn0O803110zc1zcdGAgzj56En0xRC8r"),
  (["cyprominoan", "cpmn"],
    "ywE01HQez2"),
  (["cypriot", "cprt"],
    "ywE024xc38xS05201xb113020"),
  (["cyrillic", "cyrl"],
    "Rs0y321010102050DeFfBWgaB00yc0zv0z_7vy30Z_syvRYe1xUM0xtx10"),
  (["devanagari", "deva"],
    "Rs0xO3yi2xaAWgx611_m0xxVv9B6vYM09"),
  (["dogra", "dogr"],
    "yH4bxDS09X-6xr"),
  (["duployan", "dupl"],
    "Bn0Of110o1GUn0zzK3za5c387927"),
  (["elbasan", "elba"],
    "Bn0Od0ywLqx7"),
  (["ethiopic", "ethi"],
    "Ue0zThy8132610132x8132x0132610132e1xo132y22v3pCL6m9616161616161616_F2525259616yLBh613111" ++
    "e"),
  (["georgian", "geor"],
    "Bn0xCh0yUmx510502xfyYgxa22Yq0zB5x51050E30"),
  (["glagolitic", "glag"],
    "Bn0Ob010Hu020E10yXh0zWu0yZ5yvL30-xb0yKIg61g261114"),
  (["gunjalagondi", "gong"],
    "Bn0yBc1yA_q5111x4111579"),
  (["masaramgondi", "gonm"],
    "yH41yAYq6111xb30111889"),
  (["gothic", "goth"],
    "Bn0Oc120x80x__uq"),
  (["grantha", "gran"],
    "yGh1h1Q0dACs011u231_m0xYMf317212l1611141921222060562634zyr110"),
  (["greek", "grek"],
    "Bn0O81201010a0xe020xa72310401012101j1xuefCF64xi444yk2Ful252x525271010101u2xk1e1d251i2218" ++
    "yu0C80xyNu0RKqyeh0xQyvy5"),
  (["gujarati", "gujr"],
    "yGh1h1Er218121l16111429121220f32b76xDFg9"),
  (["gurmukhi", "guru"],
    "yGh1h1Ar215412l16111111201441223073107gxDJp9"),
  (["hangul", "hang"],
    "AE0DvDM12491ce260C30xlytzhuy1uZT1sQ3GZ3cm4xgFO91Eq4xqu35252522"),
  (["han", "hani"],
    "Bn0HK8p1yocClqf121c1c1c2068Br0Akfx0x590xgx7xoxgfbxj0yooa4z0u1CJvy0QLvxU07QLoHd2z9Xb1Eq4Y" ++
    "zs1c1UXehDSu1zJexFSvx0Axp6Ct2BQ1eDFgfPdyJ2MtxL2AWa5Ayv"),
  (["hanunoo", "hano"],
    "BV0m"),
  (["hebrew", "hebr"],
    "U71Q8xm8q45xZF8p1410111119"),
  (["hiragana", "hira"],
    "Iw12491cg510413yl27yq1xPG81Eq4a0xd1xIz1Eui0t2MBd0"),
  (["oldhungarian", "hung"],
    "Eyq020zKj0f0xTNuxidxi75"),
  (["javanese", "java"],
    "xGI0yd1a41"),
  (["kayahli", "kali"],
    "xGE0xf"),
  (["katakana", "kana"],
    "U50t0HCt2491cg51041yr33yvDgfCgxe1ynxOTd1EqxuxIyg3161110Ev2xi0e3"),
  (["khojki", "khoj"],
    "yT69xDG09WK6h1xe"),
  (["kannada", "knda"],
    "yGh1h1Uqc121m19142812137161132912z-s01160n010xyVr5"),
  (["kaithi", "kthi"],
    "yH69FC10-Lu9Wy6y2a0"),
  (["latin", "latn"],
    "y1p6pxf0c0205m1u1K030a01210901064re1110f27111x60504cEl1xCa1xZ80zw4x56xg535c1y5xp07DvFf0y" ++
    "10d0gcyj0xp160r0hx8ySnvIn0-D87qz53y2211017ldFe0M1xa1813PYm6xwqp6pyx551x918xRW5u65"),
  (["limbu", "limb"],
    "yH50zYqu1b4b403b"),
  (["lineara", "lina"],
    "ywE7xcxCcFm9la7"),
  (["linearb", "linb"],
    "yww0b1p1i111e2dx2zq524xc38"),
  (["lisu"],
    "Rs0g0HFs1ZC4xf-Rg0"),
  (["lycian", "lyci"],
    "Eyq0xUN5s"),
  (["lydian", "lydi"],
    "Bn0HHp0xSTep50"),
  (["mahajani", "mahj"],
    "Bn0yBcbxDS09WEmx6"),
  (["mandaic", "mand"],
    "xO00Lvr20"),
  (["manichaean", "mani"],
    "xO00yxzvx64b"),
  (["meroitichieroglyphs", "mero"],
    "Eyt0xWF2v"),
  (["malayalam", "mlym"],
    "yGh1h1Yqc121xi12154f2pzWq0n0xyVt2"),
  (["modi"],
    "xGxg9XK6y4b9"),
  (["mongolian", "mong"],
    "Cw0p6yo7xaxY40z-h153xVOkc"),
  (["multani", "mult"],
    "yP69yywg610131e1a"),
  (["myanmar", "mymr"],
    "Aw0AvxCAe0Bhuz1vXygj"),
  (["nandinagari", "nand"],
    "yGh0i1Y09z_p08070xyVl5YHa72xd2a"),
  (["newa"],
    "yGh1AY201190601010xZUiyr14"),
  (["nko", "nkoo"],
    "xMc0e030J0xq22xZFu1"),
  (["oldturkic", "orkh"],
    "Eyq0zKl0xTKfy8"),
  (["oriya", "orya"],
    "yGh1h1Ir217212l1611142821227241142hAH20n0"),
  (["osage", "osge"],
    "U102060yc0ywGnx34x3"),
  (["olduyghur", "ougr"],
    "xO00yxBh0xztp"),
  (["oldpermic", "perm"],
    "Bn0O8052a0Hf0x_Scxa"),
  (["phagspa", "phag"],
    "Cw2110yx90z-i0-xtxn"),
  (["psalterpahlavi", "phlp"],
    "xO00yxFvh73c6"),
  (["hanifirohingya", "rohg"],
    "xMc0e030x00Aj0yxNbx789"),
  (["runic", "runr"],
    "BR0yo"),
  (["samaritan", "samr"],
    "yw0xd2eFLi0"),
  (["shavian", "shaw"],
    "Bn0ywYoxf"),
  (["sharada", "shrd"],
    "yGh0AY501021209020xyW2520WG7yv"),
  (["khudawadi", "sind"],
    "yH41xDSa9WPmxq59"),
  (["sinhala", "sinh"],
    "yH41xwr21h3n181026304510176922zTt0xZDej"),
  (["sogdian", "sogd"],
    "xO00yyDfx9"),
  (["sylotinagri", "sylo"],
    "yH41A09xDMgxc"),
  (["syriac", "syrc"],
    "U312110o27111Sq0e120x00aaq0Afd1xr22EgaBId010"),
  (["tagbanwa", "tagb"],
    "BVl1x9c1211"),
  (["takri", "takr"],
    "yH41xDSa9XO6xp69"),
  (["taile", "tale"],
    "U015130zFj9yE6t24"),
  (["tamil", "taml"],
    "yGh1h1Ms115321331101131323b4432132060ekACv0xzwo0WMd010xn1zA3xhd0"),
  (["tangut", "tang"],
    "H_gfLf0yLLg0vB_n8TvM08"),
  (["telugu", "telu"],
    "yGh1h1Qqc121m1f281213711220232978Ayl11010n0"),
  (["tifinagh", "tfng"],
    "U201013p0GMcxn71e0"),
  (["tagalog", "tglg"],
    "BU0l90l1"),
  (["thaana", "thaa"],
    "xMc0e120y09EmxhxZO00a0"),
  (["thai"],
    "Rs0q0xb0xd0ySfxp5r"),
  (["tibetan", "tibt"],
    "zU0y71x34x61x31e1641Exd3"),
  (["tirhuta", "tirh"],
    "yGh1h1AXf0c0f0xyVt9Xy6y789"),
  (["toto"],
    "Rs0zT-ju"),
  (["yezidi", "yezi"],
    "xMc0e030y09yywmx91221"),
  (["yi", "yiii"],
    "Iw115927Cv0XU4xAc3xmSQq4"),
  (["inherited", "zinh", "qaai"],
    "Uf0201e36202f111h1413xLg1AGruTjxl1014Mc1C2vxTEgfgd-f0xPE2xd2mN02h726u3UHWiDf"),
  (["common", "zyyy"],
    "0y0q5qxe1b1114n0v0K12191030181015542jzu06010Pt0Cn0M40xGs0Il3Ax7b2x01u1911161a3a1ehx0xvx5" ++
    "12251q1gx924QpmalYvE0Pj2v1z8M0m1n2913101pJ2030d0d0l0Mhnv0xhec3B195yvv0CK0xvSE8pz62-g0e1Q" ++
    "R49mk2b1i13Aj01vq5q5zv616a4IicxjxcxOM3Dp6JjAszjxsDlax62xt3g817t4xsCljcjcymr6A7yk1y611202" ++
    "1231b10161y01327161r131410361Gj2F32xhBzhy3ycxsS2xb4z3ce2e1e1x4aBdxop11dxb48n5Aq-n4g3c3zm" ++
    "4yu6b40fb4xn896x78t2b41xuGjcd2c395xn7e2a687Ai1z5Uxw70uyv"),
  (["todhri", "todr"],
    "U1020209010ya0ywP1xj"),
  (["garay", "gara"],
    "xMc0e030yxV0x53s81"),
  (["tulutigalari", "tutg"],
    "zD69Aw2010xyVr5Br0WQe910201x519102013191181"),
  (["sunuwar", "sunu"],
    "U01109020s030yCAex1e9"),
  (["gurungkhema", "gukh"],
    "yH50yRYqxp"),
  (["olonal", "onao"],
    "yH41zTzaxa40")]

end Pattern

end DocumentModel
