/-!
# How characters of domain names are composed

The composed characters other than those of the Korean script, and the classes of the marks that are
not of class zero. Each table is written as numbers and covers the characters that mapping keeps.
-/

namespace DocumentModel

namespace Format

namespace Domain

/-- For each composed character its distance from the one before, the number of its parts and the
parts. -/
def decompositionText : String :=
  "D02z1U012z1U112z1U212z1U312z1U812z1Ua22z3V712z5U012z5U112z5U212z5U812z9U012z9U112z9U212z9U82" ++
  "2zeU312zfU012zfU112zfU212zfU312zfU832zlU012zlU112zlU212zlU812zpU122zpU822z1U422z1U622z1V822z" ++
  "3U122z3U222z3U722z3Uc22z4Uc42z5U422z5U622z5U722z5V822z5Uc22z7U222z7U622z7U722z7V722z8U242z9U" ++
  "322z9U422z9U622z9V862zaU222zbV732zcU122zcV722zcUc62zeU122zeV722zeUc52zfU422zfU622zfUb42ziU12" ++
  "2ziV722ziUc22zjU122zjU222zjV722zjUc22zkV722zkUc42zlU322zlU422zlU622zlUa22zlUb22zlV822znU222z" ++
  "pU232zqU122zqU722zqUcx32zfUrf2zlUru2z1Uc22z9Uc22zfUc22zlUc23zlU8U423zlU8U123zlU8Uc23zlU8U033" ++
  "z1U8U423z1U7U422D6U442z7Uc22zbUc22zfV823zfV8U422QiUc12zaUc52z7U142zeU023z1UaU122D6U122DoU122" ++
  "z1Uf22z1Uh22z5Uf22z5Uh22z9Uf22z9Uh22zfUf22zfUh22ziUf22ziUh22zlUf22zlUh22zjV622zkV642z8Uc82z1" ++
  "U722z5V723zfU8U423zfU3U422zfU723zfU7U422zpU4Gt3ZpU8U1s2ZhU112ZlU112ZnU112ZpU113-5U8U1q2ZpU81" ++
  "2-5U812ZvU112-5U112-9U1zb2xxoU6n2xxlU012xxlU822xxjU142xymU852xxqU112xxoU012xy3U6p2xzlUfyb2xx" ++
  "mU6f2xxgU622xxgU842xxlU642xCpU822xxmU822xxnU842xxoU422xxoU822xxuU842xD9U822xydU822xy3U422xy3" ++
  "U822xy3Ub22xy7U842xybU8F92xN7xOj12xN7xOk12xO8xOk12xN7xOl12xOaxOkAq2xSlxOk22xS1xOkh2xSixOkOm2" ++
  "yF8yFs82yFgyFs32yFjyFsAn2yK7yJu12yK7yKnHs2yW7yWm32yW7yVu12yW7yWny82yYiy-nxm2y-6yZu12y-7yZu12" ++
  "y-6y-nzs2zy6zymzo2zBvzCl72zC6zCl12zC6zCm22zC6zC213zC6zC2zClzv2zG6zFu12zG7zFu12zG6zGnAe2zKpzK" ++
  "a22zKpzKf13zKpzKfzKa12zKpzKvO82Ax5AxeyT02CU5CVl22CU7CVl22CU9CVl22CUbCVl22CUdCVl42CUhCVlx92CV" ++
  "qCVl22CVsCVl32CVuCVl12CVvCVl22CW2CVlRu2z1V522z2U722z2V322z2Vh23z3V7U122z4U722z4V322z4Vh22z4V" ++
  "722z4Vd23z5U4U023z5U4U122z5Vd22z5Vg23z5V7U622z6U722z7U422z8U722z8V322z8U822z8V722z8Ve22z9Vg2" ++
  "3z9U8U122zbU122zbV322zbVh22zcV323zcV3U422zcVh22zcVd22zdU122zdU722zdV322zeU722zeV322zeVh22zeV" ++
  "d23zfU3U123zfU3U823zfU4U023zfU4U122zgU122zgU722ziU722ziV323ziV3U422ziVh22zjU722zjV323zjU1U72" ++
  "3zjUcU723zjV3U722zkU722zkV322zkVh22zkVd22zlV422zlVg22zlVd23zlU3U123zlU4U822zmU322zmV322znU02" ++
  "2znU122znU822znU722znV322zoU722zoU822zpU722zqU222zqV322zqVh12z8Vh12zkU812znUa12zpUa82z1V322z" ++
  "1U923z1U2U123z1U2U023z1U2U923z1U2U323z1V3U223z1U6U123z1U6U023z1U6U923z1U6U323z1V3U622z5V322z" ++
  "5U922z5U323z5U2U123z5U2U023z5U2U923z5U2U323z5V3U222z9U922z9V322zfV322zfU923zfU2U123zfU2U023z" ++
  "fU2U923zfU2U323zfV3U223zfUrU123zfUrU023zfUrU923zfUrU323zfUrV322zlV322zlU923zlUrU123zlUrU023z" ++
  "lUrU923zlUrU323zlUrV322zpU022zpV322zpU922zpU372ZhUj12ZhUk13ZhUjU013ZhUkU013ZhUjU113ZhUkU113Z" ++
  "hUjW213ZhUkW292ZlUj12ZlUk13ZlUjU013ZlUkU013ZlUjU113ZlUkU1b2ZnUj12ZnUk13ZnUjU013ZnUkU013ZnUjU" ++
  "113ZnUkU113ZnUjW213ZnUkW292ZpUj12ZpUk13ZpUjU013ZpUkU013ZpUjU113ZpUkU113ZpUjW213ZpUkW292ZvUj1" ++
  "2ZvUk13ZvUjU013ZvUkU013ZvUjU113ZvUkU1b2-5Uj12-5Uk13-5UjU013-5UkU013-5UjU113-5UkU113-5UjW213-" ++
  "5UkW292-9Uj12-9Uk13-9UjU013-9UkU013-9UjU113-9UkU113-9UjW213-9UkW292ZhU022ZlU022ZnU022ZpU022Z" ++
  "vU022-5U022-9U0xk2ZhU612ZhU452ZhW2g2ZnW2a2ZpU612ZpU413ZpU8U042ZpW213ZpU8W292-5U612-5U413-5U8" ++
  "U022-1Uj12-1Uk12-5W213-5U8W2f2-9W2J42EIgVo12EIiVoj2EIkVov2EKgVo12EKkVo12EKiVoxl2EM3Vo52EM8Vo" ++
  "32EMbVoo2EN3Vo22EN5Vor2ENsVo32EO3Vo32EO5Vo22EO8Von2xtVo22EP1Vob2EOdVo12xsVo12xuVo12EP4Vo12EP" ++
  "5Vo32EPiVo12EPjVo32EPmVo12EPnVo72EPqVo12EPrVo32EQ2Vo12EQ3Vo32EQ6Vo12EQ7Vox32ER2Vo12ER8Vo12ER" ++
  "9Vo12ERbVoxh2EPsVo12EPtVo12EQhVo12EQiVo72ERiVo12ERjVo12ERkVo12ERlVozGv2IybIAp22IydIAp22IyfIA" ++
  "p22IyhIAp22IyjIAp22IylIAp22IynIAp22IypIAp22IyrIAp22IytIAp22IyvIAp22Iz1IAp32Iz4IAp22Iz6IAp22I" ++
  "z8IAp72IzfIAp12IzfIAq22IziIAp12IziIAq22IzlIAp12IzlIAq22IzoIAp12IzoIAq22IzrIAp12IzrIAqn2Iy6IA" ++
  "pa2IAtIApe2IBbIAp22IBdIAp22IBfIAp22IBhIAp22IBjIAp22IBlIAp22IBnIAp22IBpIAp22IBrIAp22IBtIAp22I" ++
  "BvIAp22IC1IAp32IC4IAp22IC6IAp22IC8IAp72ICfIAp12ICfIAq22ICiIAp12ICiIAq22IClIAp12IClIAq22ICoIA" ++
  "p12ICoIAq22ICrIAp12ICrIAqn2IB6IAp32IDfIAp12IDgIAp12IDhIAp12IDiIAp42IDtIApxRCb2yxKiU7r2yxKqU7" ++
  "yRm2yAApyABq22yAAryABqf2yAB5yABqA32yAFhyAF712yAFiyAF7Ms2yAW7yAVu12yAW7yAWnxn2yAY2yA-922yAY4y" ++
  "AZr92yAYbyA-232yAYgyA-9xk2yA-2yA-222yA-2yAZo12yA-2yA-9Dj2yBBpyBBq12yBBpyBBg22yBBpyBBtDs2yBJo" ++
  "yBJf12yBJpyBJfXt2yCFlyCFgN_92yUEuyUEu12yUEuyUF912yUEuyUEv12yUF9yUEv12yUEuyUF013yUEuyUEuyUEv1" ++
  "3yUEuyUF9yUEv13yUEuyUEuyUF0zy02yXH7yXH712yXH3yXH713yXH3yXH7yXH7"

/-- For each pair that composes the distance of its first character from the one before, its second
character and what they compose to. -/
def compositionText : String :=
  "xsVoEPe1VoEP01VoEPfx3U0D00U1D10U2D20U3D30U4E10U6E30U7N70U8D40U9DR30UaD50UcKe0UfM10UhM30V3DR1" ++
  "0V5DM10V8E51U7DM30V3DM50VhDM71U1E70U2E90U7Eb0UcEd0V7D71U7DMb0UcEf0V3DMd0V7DMh0VdDMj0VhDMf1U0" ++
  "D80U1D90U2Da0U3DRt0U4Ej0U6El0U7En0U8Db0U9DRr0UcEr0UfM50UhM70V3DRp0V7N90V8Ep0VdDMp0VgDMr1U7DM" ++
  "v1U1Ll0U2Et0U4DN10U6Ev0U7F10UcL70V7F31U2F50U7DN30U8DN70UcMv0V3DN50V7DN90VeDNb0VhDQm1U0Dc0U1D" ++
  "d0U2De0U3F90U4Fb0U6Fd0U8Df0U9DS90UcKg0UfM90UhMb0V3DSb0V8Ff0VgDNd1U2Fl0UcLg1U1DNh0UcL90V3DNj0" ++
  "V7Fn0VhDNl1U1Fq0UcFu0V3DNn0V7Fs0VdDNt0VhDNr1U1DNv0U7DO10V3DO31U0Lp0U1G40U3Dh0U7DO50UcG80V3DO" ++
  "70V7G60VdDOb0VhDO91U0Di0U1Dj0U2Dk0U3Dl0U4Gd0U6Gf0U7Nf0U8Dm0U9DSf0UbGh0UcKi0UfMd0UhMf0UrJ10V3" ++
  "DSd0V8Lb1U1DOl0U7DOn2U1Gl0U7DOp0UcGp0UfMh0UhMj0V3DOr0V7Gn0VhDOv1U1Gr0U2Gt0U7DP10UcH10V3DP30V" ++
  "6Mp0V7Gv1U7DPb0U8DQn0UcH50V3DPd0V6Mr0V7H30VdDPh0VhDPf1U0Dp0U1Dq0U2Dr0U3H90U4Hb0U6Hd0U8Ds0U9D" ++
  "T70UaHf0UbHh0UcKk0UfMl0UhMn0UrJg0V3DT50V4DPj0V8Hj0VdDPn0VgDPl1U3DPt0V3DPv1U0DQ10U1DQ30U2Hl0U" ++
  "7DQ70U8DQ50UaDQo0V3DQ91U7DQb0U8DQd1U0DTj0U1Dt0U2Hn0U3DTp0U4Nj0U7DQf0U8Dv0U9DTn0UaDQp0V3DTl1U" ++
  "1Hq0U2DQh0U7Hs0UcHu0V3DQj0VhDQlz8U0DR70U1DR50U3DRb0U9DR92U4Kv1U1Lr1U1Lt0U4L31U1DM93U0DS10U1D" ++
  "Rv0U3DS50U9DS35U1DNf5U0DSj0U1DSh0U3DSn0U9DSl1U1DOd0U4Nd0U8DOf1U4Nb2U1Lv4U0Ks0U1Ko0U4Km0UcKq7" ++
  "U0DRh0U1DRf0U3DRl0U9DRjgU0DMl0U1DMnxqU0DOh0U1DOjeU7DP56U7DP78U1DPp2U8DPrxmU0DSt0U1DSr0U3DT10" ++
  "U9DSv0V3DT3fU0DTb0U1DT90U3DTf0U9DTd0V3DThxrU4LdxsU4L12U6DMt6U4Nhz3UcLfEvU0DXg0U1Zc0U4DZh0U6D" ++
  "Zg0UjDU00UkDU10W2DZm4U0DXi0U1Zd0UjDUg0UkDUh2U0DXk0U1Ze0UjDV00UkDV10W2D-62U0DXm0U1Zf0U4D-h0U6" ++
  "D-g0U8-a0UjDVg0UkDVh0W2D-m6U0DXo0U1-c0UjDW00UkDW12UjD_40UkD_54U0DXq0U1-d0U4D_10U6D_00U8-b0Uj" ++
  "DWg0UkDWh0W2D_64U0DXs0U1-e0UjDX00UkDX10W2D_m1U0D-i0U1Yg0W2D-n1U0D_20U1Zg0W2D_7z5U6xCh0U8xCj3" ++
  "U1xyj2U0xyg0U6xCn0U8xyh1U6xC20U8xCt1U8xCv1U0xyt0U4xD30U6xxp0U8xD52U1xys4U8xD75U4xDf0U6xyu0U8" ++
  "xDh0UbxDj4U8xDl4U8xDp2U8xDd9U8xynvUfxznz4U8xCrgU8xDbFuxOjxN20xOkxN30xOlxN5x1xOkxN42xOkxN6znx" ++
  "OkxS2hxOkxSj3xOkxS0OjyFsyF98yFsyFh3yFsyFkAkyJuyKb0yKnyKcI0yVuyWb0yWmyW80yWnyWcyby-nyYkxkyZuy" ++
  "-a0y-ny-c1yZuy-bzvzymzy8zpzClzC07zC2zCa0zClzC70zCmzC84zClzCbzszFuzGa0zGnzGc1zFuzGbAizKazKq0z" ++
  "KfzKs0zKvzKu3zKazKtO9AxeAx6yT0CVlCU62CVlCU82CVlCUa2CVlCUc2CVlCUe4CVlCUix9CVlCVr2CVlCVt2CVlCW" ++
  "01CVlCW13CVlCW3TlU4DNpx4U4DOt8U7DP9xuU2DRd0U6DRnoU2DS7kU2DSpxjU0DU20U1DU40W2DU61U0DU30U1DU50" ++
  "W2DU7fU0DUi0U1DUk1U0DUj0U1DUlfU0DV20U1DV40W2DV61U0DV30U1DV50W2DV7fU0DVi0U1DVk0W2DVm1U0DVj0U1" ++
  "DVl0W2DVnfU0DW20U1DW41U0DW30U1DW5fU0DWi0U1DWk0W2DWm1U0DWj0U1DWl0W2DWnfU0DX20U1DX40W2DX61U0DX" ++
  "30U1DX50W2DX7NfVoEIq2VoEIr2VoEJexsVoEKd2VoEKf2VoEKexfVoEM45VoEM93VoEMcoVoEN42VoEN6nVoEO17VoE" ++
  "O42VoEO73VoEO95VoEPdkVoEP23VoEPg1VoEPhdVoEPk1VoEPl3VoEPo1VoEPp3VoEQ01VoEQ11VoET01VoET15VoEQ4" ++
  "1VoEQ53VoEQ81VoEQ9aVoET21VoET3gVoERc6VoERd1VoERe2VoERf7VoETa1VoETb1VoETc1VoETdzIhIApIAk5IApI" ++
  "yc2IApIye2IApIyg2IApIyi2IApIyk2IApIym2IApIyo2IApIyq2IApIys2IApIyu2IApIz02IApIz23IApIz52IApIz" ++
  "72IApIz97IApIzg0IAqIzh3IApIzj0IAqIzk3IApIzm0IAqIzn3IApIzp0IAqIzq3IApIzs0IAqIztx2IApIAu9IApID" ++
  "k5IApIBc2IApIBe2IApIBg2IApIBi2IApIBk2IApIBm2IApIBo2IApIBq2IApIBs2IApIBu2IApIC02IApIC23IApIC5" ++
  "2IApIC72IApIC97IApICg0IAqICh3IApICj0IAqICk3IApICm0IAqICn3IApICp0IAqICq3IApICs0IAqICtkIApIDn1" ++
  "IApIDo1IApIDp1IApIDqbIApIDuxRClU7yxK98U7yxL4yRvyABqyAAq2yABqyAAsayABqyABbAcyAF7yAFe1yAF7yAFf" ++
  "MlyAVuyAWb0yAWnyAWcxryA-9yAY32yAZryAY57yA-2yAYe5yA-9yAYhxiyAZoyA-70yA-2yA-50yA-9yA-8DnyBBgyB" ++
  "Bs0yBBqyBBr0yBBtyBBuDvyBJfyBJq1yBJfyBJrXsyCFgyCFoN_9yUEuyUF10yUEvyUF30yUF0yUF50yUF9yUF23yUEv" ++
  "yUF60yUF0yUF81yUEvyUF77yUEvyUF4zxqyXH7yXH94yXH7yXH82yXH7yXHa"

/-- For each range of marks the gap in front of it, how many more than one it has, and their
class. -/
def markClassText : String :=
  "U0kD600D803Cs00D800Co04Cs01Ca03Cs01Ca0aCs04103Cs02D620D630D602Cs02D601Cs12D603Cs00D600D801Cs" ++
  "00D600D901Da00D901Da00D90cD6Ej4D6E90Cs03D600Cs02D600Cu00Cs05D605Cs01D600Cs01D600Cu00D400D600" ++
  "a00b00c00d00e00f00g00h00i01j00k00l00m10n10o00p10D600Cs10iy87D600u00v00x0xg0r00s00t00u00v00x0" ++
  "00x100x201D601Cs04D600Cs01D600Csg0x3z56D623D600Cs00D621D610Cs01D600Csx30x4u0D600Cs01D600Cs01" ++
  "D602Cs00D601Cs00D600Cs02D600Cs00D600Cs00D600Cs00D600Cs01D6B06D600Cs00D690Cso3D618D612D614D6x" ++
  "b2Csxr1D602Cs03D6xa4D604Cs0dD610Cs01D600Cs01D600Cs02D602Cs00r00s00t02D600Cs01D601Cs04D6xs07g" ++
  "0930D600Cs01D6z707g09xg0D6xt07g09ze07g09ze07g09zv09ze07g0970yk00yrz507g09zd19g09zs09zd1z7009" ++
  "d3zbzc1zm009d3zqyc1Csr0Cs10Cs10Coxn0A100A210A453A220A211D600911D6xu0Cszg07119yi0CsSf2D6Zk19u" ++
  "09At09a0D6Cb0D4Af0Cu00D600CsCr0D600Csy709k7D620Csxg4D605Cs01D600Cs11Cs01D601Cs04D600Cs0hD600" ++
  "Cs25D600Cs03D600Day807f09x60D600Cs06D6xm19xq07b19y307Ao2D610104Cs01D603Cs00D616140Cs60D631D6" ++
  "C61D600Cs06D600Cs01D600Da00Cm00Cs00Ca0x4D600D801D400Cs00Cq00D600D900Cs00D600CsSg1D601103D602" ++
  "101D640D631100D600Cs00D601103Cs00D6y_u2D6Ad09z0vD6Na0Cq00D400D800Cu01D0z918ZKk0D649D6x01D6yg" ++
  "1D6Ek09x509An09rhD6xp2Csx509yv07c09Df0D611D600Cs21D651D610D6xk09Dm09PVg0qU16D606Cs01D6-d0CsD" ++
  "20CsAl4D6xQi0Cs10D6x80D600100Cs409B50D600CsNt3D6y14D6Ft1D6yd1Cs12Csy61Cs02D600Cs00D603Csxh0D" ++
  "600Cs00D600CsC009x909e09xp09007y52D6xg19xu07yc09907za09007Bi07009yg17g09o6D634D6yp29zh09307n" ++
  "0D6z309007Dr09007zu09zm09007zj09Ed09007E219407As09yj09i09yh09J509E207119yh09J919MLc09yK041xr" ++
  "6D6xBp16PBc01BC61Co02130D204Co87Cs24D601Csu3D6Ak2D6zJr6D61gD626D611D614D6z40D6B06D6Hn0D6xt3D" ++
  "6Ls1D800Cs00D6Du0D600CsDj0D620D671D650D6Kq6Cszd5D6007"

end Domain

end Format

end DocumentModel
