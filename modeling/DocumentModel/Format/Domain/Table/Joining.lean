/-!
# Marks and joining characters of domain names

The combining marks, and how characters join their neighbours in cursive scripts, as written ranges
over the characters that mapping keeps.
-/

namespace DocumentModel

namespace Format

namespace Domain

def markText : String :=
  "U0xv20381vEj6E7xc10111110y8axgkg0z56252113x30uqyraxq890o3181214xb2xr8xan1x0xm21h16a1t2xo0162" ++
  "12290a1q022xo014412230u130b2xo0171212k1m512xo016212272a1u0xr4321390x84xn016121371b1t2xo01612" ++
  "1371b1f0c3xn116121390a1t2y60451017i1xt026c7z2028b6y91r0101041xh1105612115513131313131b1290z4" ++
  "jn342122633db10a3Rv2Zi3s2t1u1y2t90B71x20zmb4bCr4xp91s20xgxd2bk4xfgx68c2ucxodxgjAo21k406022C6" ++
  "xvSgx0y_u2Ad0z0vNa5z91ZKk319x01yg1Eg03040n440yj1xihqhd0x67pcxc3xfdx40y3dc081xd2xi012215110x9" ++
  "451Dc711PVg0U1f-d0D20Al4xQ621153x8240B51Nt3y14Ft1yd5y6axh3zq2xlex9021a3xda70xt2x4dg1xc0c2xgd" ++
  "8311ysb6020Atbl3xn116212290a12634y381020131410e1yihn0yhjDb628r1yigzacz5eE0eDl511231011Ad6263" ++
  "0s9x8613809axefC67C7717yil1dzq530111610y241114Gr39110xg634n0BD506eHC8hyK04xr6xwo01xm73yh0b1P" ++
  "Bb1AP1xd2mMu4358726u3Ak2xZrxm4xh80e0m41exGg61g261114z40B06Hn0xt3Ls3Du1Dj0207150Kq6zd6"

/-- Characters that join on both sides. -/
def joinsBothText : String :=
  "xN005010144c1611x319eix511901011x8220i25318101011va3e23102225yax0ym4201910a01320t02410g95125" ++
  "1ezVu0oyoex110xzYlxhUOe4e31412a3Ah01032111020s1Gix010Iv111z821gc2s32bxe011402111102050xSGnx1"

/-- Characters that join the one behind them only. -/
def joinsNextText : String :=
  "xGzi0UOq090N80Sa0"

/-- Characters that join the one before them only. -/
def joinsPreviousText : String :=
  "xN23101053l0x82khx602810102110o1x00444090101020t0b2f1401131C605110a012e0115ib0r2102160ywMb01" ++
  "01134a03020a0Ah01230201110n3Hl0Iv0zg0x00v1xu221204150"

/-- Characters that joining looks through. -/
def transparentText : String :=
  "U0xv20381vEj6E7xc10111110y8axgkg0z56252113x30uqyraxq890o3181214xb2xr8xan1vxn010474036a1t0xq0" ++
  "4380k1q021xp041412230u130b1xp0441140k1m510xq020138071b1u0xt0c0xi030xn012521371b1t0xq0206051k" ++
  "1s1xp14380k1t0y807210yq026c7z2028b6y91r01010xn110541012115513131313131b1290z63151121p142g3d0" ++
  "2160f0Rv2Zi2t1u1u1y36802a90B71x20zm2419062Cr120xq0161010276920xgxd2bk3xg0141050x88c1x032112x" ++
  "o0113012xq721Ao21c16406031C6xvSgx0y_u2Ad0z0vNa3zb1ZKk319x01yg1Eg03040p150An1qhd0x67paxe2xg02" ++
  "321x70y352121c080xf0xj012215110xa180De02040PVg0U1f-d0D20Al4xQ621153x8240B51Nt3y14Ft1yd5y6axh" ++
  "3zr0xmex9021a2xh32170xt2x4417xu0c1xk8a320yv220116020At037l1xp130x5634y65d01010e1yl72210n0yk5" ++
  "104111De36111r1yl72011za0102510z50102314E3811E011040Ag32140x09x8523809522xec11C601210C961510" ++
  "yil261111zq530111610y813010Gr1b1xk45010n0BD506eHC8b32yK04xr6xwo0xv3yh0PBo1AP1xd2mN02h726u3Ak" ++
  "2xZrxm4xh80e0m41exGg61g261114z40B06Hn0xt3Ls3Du1Dj0207150Kq6zd7"

end Domain

end Format

end DocumentModel
