import DocumentModel.Text.CharRanges

/-!
# Scripts

The characters of each Unicode script, under the normalized names of the script.
-/

namespace DocumentModel

namespace Pattern

/-- The scripts: names and written ranges. -/
def scriptTable : List (List String × String) := [
  (["adlam", "adlm"],
    "zWE0yb4941"),
  (["caucasianalbanian", "aghb"],
    "yxFgxjb0"),
  (["ahom"],
    "yBU0q2e4m"),
  (["arabic", "arab"],
    "xM04151d121v19bp1zb1x1ygxfDgu115ya1sxYOgzigHa2yf2xl70x0fzg41A6zX3uy32xn3xTU031q111020191" ++
    "3101060401010121110201010101011102316131310191g52141gxk1"),
  (["imperialaramaic", "armi"],
    "yyy0l18"),
  (["armenian", "armn"],
    "xFhx52xh22xZI34"),
  (["avestan", "avst"],
    "yyU0xl36"),
  (["balinese", "bali"],
    "CU0yc1xh"),
  (["bamum", "bamu"],
    "xFR0ynxME8No"),
  (["bassavah", "bass"],
    "yWSgt25"),
  (["batak", "batk"],
    "C-0xj83"),
  (["bengali", "beng"],
    "yI0317212l1610332821238041142o"),
  (["bhaiksuki", "bhks"],
    "yDw081xc1das"),
  (["bopomofo", "bopo"],
    "Ta1HMpxazgv"),
  (["brahmi", "brah"],
    "yAw0yd4x390"),
  (["braille", "brai"],
    "Gw0Dv"),
  (["buginese", "bugi"],
    "CM0r21"),
  (["buhid", "buhd"],
    "BW0j"),
  (["chakma", "cakm"],
    "yAE0xk1h"),
  (["canadianaboriginal", "cans"],
    "Bw0PvNgy5ywJqf"),
  (["carian", "cari"],
    "ywR0xg"),
  (["cham"],
    "xGM0xm9d2923"),
  (["cherokee", "cher"],
    "AZ0yl25xBXiyf"),
  (["chorasmian", "chrs"],
    "yzZgr"),
  (["coptic", "copt", "qaac"],
    "_2dGAgzj56"),
  (["cyprominoan", "cpmn"],
    "yHYgz2"),
  (["cypriot", "cprt"],
    "yyw05201xb113020"),
  (["cyrillic", "cyrl"],
    "xw0A42B8BWgaB00yc0Az7v-y0yvRYe1xUM0xtx10"),
  (["devanagari", "deva"],
    "yE0yg4e2pxDX0vYM09"),
  (["divesakuru", "diak"],
    "yCE062027111t112b99"),
  (["dogra", "dogr"],
    "yCw0xr"),
  (["deseret", "dsrt"],
    "yxw0yf"),
  (["duployan", "dupl"],
    "zLw0za5c387923"),
  (["egyptianhieroglyphs", "egyp"],
    "yIw0xylazYq"),
  (["elbasan", "elba"],
    "yxE0x7"),
  (["elymaic", "elym"],
    "yz_0m"),
  (["ethiopic", "ethi"],
    "AM0y8132610132x8132x0132610132e1xo132y22v3pCL6m9616161616161616_F2525259616yLBh613111e"),
  (["georgian", "geor"],
    "AB0x510502xa13yYgxa22Ay0x51050"),
  (["glagolitic", "glag"],
    "Hw0yvzIZ061g261114"),
  (["gunjalagondi", "gong"],
    "yDH05111x4111579"),
  (["masaramgondi", "gonm"],
    "yDE06111xb30111889"),
  (["gothic", "goth"],
    "ywVgq"),
  (["grantha", "gran"],
    "yAU0317212l1611142821222060562634"),
  (["greek", "grek"],
    "Xg3122310401012101j1xuefCF64xi444yk0G0l252x525271010101u2xk1e1d251i2218F70xyNu0RKqyeh0xQ" ++
    "yvy5"),
  (["gujarati", "gujr"],
    "yQ1218121l16111429121220f32b76"),
  (["gurmukhi", "guru"],
    "yM1215412l16111111201441223073107g"),
  (["hangul", "hang"],
    "AE0DvDNe1E1ytzhuy1uZT1sQ3GZ3cm4xgFZ4u35252522"),
  (["han", "hani"],
    "HQ0p1yocClxf010p8e3-4CJvy0QLvSE0Hd2z9ZE81c1xAwexFSvx0Axp6Ct2BQ1eDFgfPdyJ2MtxL2AWa5Ayv"),
  (["hanunoo", "hano"],
    "BV0k"),
  (["hatran", "hatr"],
    "yyD0i1154"),
  (["hebrew", "hebr"],
    "xIhxm8q45xZF8p1410111119"),
  (["hiragana", "hira"],
    "Iy1yl62y_X1Eui0t2MBd0"),
  (["anatolianhieroglyphs", "hluw"],
    "yNw0O6"),
  (["pahawhhmong", "hmng"],
    "yWU0y5a9161k5i"),
  (["nyiakengpuachuehmong", "hmnp"],
    "zUE0xc3d2941"),
  (["oldhungarian", "hung"],
    "yzA0xidxi75"),
  (["olditalic", "ital"],
    "ywU0x392"),
  (["javanese", "java"],
    "xGI0yd2941"),
  (["kayahli", "kali"],
    "xGE0xd10"),
  (["katakana", "kana"],
    "IB1yp22DgfCgxe1ynxPwe91xcxIyi3161110Ev2xi0e3"),
  (["kawi"],
    "yDU0g1x83s"),
  (["kharoshthi", "khar"],
    "yyM031157121s224978"),
  (["khmer", "khmr"],
    "BY0yt2969L6v"),
  (["khojki", "khoj"],
    "yAM0h1xe"),
  (["khitansmallscript", "kits"],
    "yX_40CUrKlx90"),
  (["kannada", "knda"],
    "zA0c121m19142812137161132912"),
  (["kaithi", "kthi"],
    "yAA0y2a0"),
  (["taitham", "lana"],
    "CN0xu1s2a696d"),
  (["lao", "laoo"],
    "zQ1110141n101m2410161923"),
  (["latin", "latn"],
    "y1p6pxf0f05m1u1K0x74CMrx56xg535c1y5y1DvHh0d0gcAd160r0hx8ySnv-R2z53y2211017ldVgxa1813PYm6" ++
    "xwqp6pyx551x918xRW5u65"),
  (["lepcha", "lepc"],
    "Dw0xn3e32"),
  (["limbu", "limb"],
    "CE0u1b4b403b"),
  (["lineara", "lina"],
    "yxM0Fm9la7"),
  (["linearb", "linb"],
    "yww0b1p1i111e2dx2zq"),
  (["lisu"],
    "xFCgxf-Rg0"),
  (["lycian", "lyci"],
    "ywQ0s"),
  (["lydian", "lydi"],
    "yyF0p50"),
  (["mahajani", "mahj"],
    "yAGgx6"),
  (["makasar", "maka"],
    "yDT0o"),
  (["mandaic", "mand"],
    "yy0r20"),
  (["manichaean", "mani"],
    "yyS0x64b"),
  (["marchen", "marc"],
    "yDzgv2l1d"),
  (["medefaidrin", "medf"],
    "yXO0yq"),
  (["mendekikakui", "mend"],
    "zWw0C42f"),
  (["meroiticcursive", "merc"],
    "yyJ0n4j2xd"),
  (["meroitichieroglyphs", "mero"],
    "yyI0v"),
  (["malayalam", "mlym"],
    "zE0c121xi12154f2p"),
  (["modi"],
    "yBM0y4b9"),
  (["mongolian", "mong"],
    "Cw01201j6yo7xax_Jlc"),
  (["mro", "mroo"],
    "yWO0u1941"),
  (["meeteimayek", "mtei"],
    "xGT0mC9xd29"),
  (["multani", "mult"],
    "yAQ0610131e1a"),
  (["myanmar", "mymr"],
    "Aw0AvxCG0uz1vXygj"),
  (["nagmundari", "nagm"],
    "zVCgx9"),
  (["nandinagari", "nand"],
    "yCJ072xd2a"),
  (["oldnortharabian", "narb"],
    "yyQ0v"),
  (["nabataean", "nbat"],
    "yyA0u88"),
  (["newa"],
    "yBw0yr14"),
  (["nko", "nkoo"],
    "x-0xq22"),
  (["nushu", "nshu"],
    "yX_10MIeIb"),
  (["ogham", "ogam"],
    "BQ0s"),
  (["olchiki", "olck"],
    "Dygxf"),
  (["oldturkic", "orkh"],
    "yzw0y8"),
  (["oriya", "orya"],
    "yU1217212l1611142821227241142h"),
  (["osage", "osge"],
    "yxBgx34x3"),
  (["osmanya", "osma"],
    "yxA0t29"),
  (["olduyghur", "ougr"],
    "yzXgp"),
  (["palmyrene", "palm"],
    "yyz0v"),
  (["paucinhau", "pauc"],
    "yCS0xo"),
  (["oldpermic", "perm"],
    "ywWgxa"),
  (["phagspa", "phag"],
    "xGy0xn"),
  (["inscriptionalpahlavi", "phli"],
    "yyX0i57"),
  (["psalterpahlavi", "phlp"],
    "yyY0h73c6"),
  (["phoenician", "phnx"],
    "yyE0r30"),
  (["miao", "plrd"],
    "yXU0ya4xo7g"),
  (["inscriptionalparthian", "prti"],
    "yyW0l27"),
  (["rejang", "rjng"],
    "xGFgx3b0"),
  (["hanifirohingya", "rohg"],
    "yzE0x789"),
  (["runic", "runr"],
    "BR0ya3a"),
  (["samaritan", "samr"],
    "yw0xd2e"),
  (["oldsoutharabian", "sarb"],
    "yyP0v"),
  (["saurashtra", "saur"],
    "xGA0y58b"),
  (["signwriting", "sgnw"],
    "zSw0Qbf41e"),
  (["shavian", "shaw"],
    "yxygxf"),
  (["sharada", "shrd"],
    "yAI0yv"),
  (["siddham", "sidd"],
    "yBI0xl2x5"),
  (["khudawadi", "sind"],
    "yARgxq59"),
  (["sinhala", "sinh"],
    "zI121h3n181026304510176922yw_cj"),
  (["sogdian", "sogd"],
    "yzVgx9"),
  (["oldsogdian", "sogo"],
    "yzU0x7"),
  (["sorasompeng", "sora"],
    "yACgo79"),
  (["soyombo", "soyo"],
    "yCOgyi"),
  (["sundanese", "sund"],
    "CY0xvE07"),
  (["sylotinagri", "sylo"],
    "xGw0xc"),
  (["syriac", "syrc"],
    "xU0d1xr22Ega"),
  (["tagbanwa", "tagb"],
    "BX0c1211"),
  (["takri", "takr"],
    "yBQ0xp69"),
  (["taile", "tale"],
    "CGgt24"),
  (["newtailue", "talu"],
    "CI0xb4p6a31"),
  (["tamil", "taml"],
    "yY2115321331101131323b4432132060ekyA-5xhd0"),
  (["tangut", "tang"],
    "yX_00vB_n8TvM08"),
  (["taiviet", "tavt"],
    "xGQ0y2o4"),
  (["telugu", "telu"],
    "zw0c121m1f281213711220232978"),
  (["tifinagh", "tfng"],
    "HFgxn71e0"),
  (["tagalog", "tglg"],
    "BU0l90"),
  (["thaana", "thaa"],
    "xY0xh"),
  (["thai"],
    "zM1xp5r"),
  (["tibetan", "tibt"],
    "zU0y71x34x61x31e1641"),
  (["tirhuta", "tirh"],
    "yBA0y789"),
  (["tangsa", "tnsa"],
    "yWPgye19"),
  (["toto"],
    "zUQgu"),
  (["ugaritic", "ugar"],
    "ywY0t10"),
  (["vai", "vaii"],
    "xFE0Fb"),
  (["vithkuqi", "vith"],
    "yxHga1e16111a1e1611"),
  (["warangciti", "wara"],
    "yCB0yic0"),
  (["wancho", "wcho"],
    "zUS0xp50"),
  (["oldpersian", "xpeo"],
    "ywZ0x34d"),
  (["cuneiform", "xsux"],
    "yEw0Ypz6ze14bC3"),
  (["yezidi", "yezi"],
    "yzQ0x91221"),
  (["yi", "yiii"],
    "xEw0xAc3xm"),
  (["zanabazarsquare", "zanb"],
    "yCM0y7"),
  (["inherited", "zinh", "qaai"],
    "U0zfEl1K4aq0T03AGruM121c16406031C6xvMc1C2x0zVp3zb1xPH5fgd-f0D20Ayq0xK-4xd2mN02h726u3UHWi" ++
    "Df"),
  (["common", "zyyy"],
    "0y0q5qxe1e14n0v0K1x6542jzk0906010Pt060e030x00As0M40A11xCp0Il3F20xLf2y71Cb110xCd0d0731512" ++
    "20U5b2ym1a3a1ehx0xvx512251q1gx924QpmalYvE0Pj2v1z8M0ytIik101of743yr130yq1Ajfx0x590xgxvvyg" ++
    "xf0yoB7CK0xvSE0x1z62B59Dk0B00Ib0e1QKi1Cg9mx21i13Aj01vq5qaa0xd1y0616a4E224xc38ygcxjxcD4qx" ++
    "KJ43zWsDp6JjAszjxsDlax62xt3g817t4xsCljcjcym9oA7yk1y6112021231b10161y01327161r131410361Gj" ++
    "2F32xhBzhy3ycxsS2xb4z3ce2e1e1x4aBdxop11dxb4871e5Aq-n4g3c3zm4yu6b40fb4xn896x78t2b41xuGjcd" ++
    "2c395xn7e2a687Ai1z5Uxw70uyv"),
  (["todhri", "todr"],
    "yxK0xj"),
  (["garay", "gara"],
    "yzG0x53s81"),
  (["tulutigalari", "tutg"],
    "yAY0910201x519102013191181"),
  (["sunuwar", "sunu"],
    "yC-0x1e9"),
  (["gurungkhema", "gukh"],
    "yUE0xp"),
  (["kiratrai", "krai"],
    "yXG0xp"),
  (["olonal", "onao"],
    "zVKgxa40")]

end Pattern

end DocumentModel
