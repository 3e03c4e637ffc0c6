/-!
# Directions of characters of domain names

The characters that are not simply written from left to right, by their part in text of both
directions, as written ranges over the characters that mapping keeps.
-/

namespace DocumentModel

namespace Format

namespace Domain

/-- Letters written from right to left. -/
def rightToLeftText : String :=
  "xJu01020209q45j02010d01xdx22134ysf171aj201ttyob0exa91403n4090307e1o501a5vgx9xYT8gRg0yIc5201x" ++
  "b11302m1y788xgi115x04p5qx6xn4j2xef3121sa8787xvx0x46b9xlal2q5p73c6ygy8znxi7x9x65vm81Dgx93021g" ++
  "5xox78lb8mh43x6rkmxSw9C428yix1704941Uhy3ycxs"

def arabicNumberText : String :=
  "xP0911yxS3969Emu"

def europeanNumberText : String :=
  "xg9xRm9x-_7q"

/-- Separators, signs and other characters without a direction. -/
def neutralText : String :=
  "085d5ea6q5q4x1610111011413030n0v0K117d2561581gzl0A00Ij022zm1111011yq0zj0a0Ec3Lo170Dl0E17zt6K" ++
  "00Dq3xyi9z60Qq1Fu0k96aFl031Aox1xMc120141b3082202310173c16y171oy2030b021513010101040b06353xs1" ++
  "4Ar202Dn2ay5p1AjmaB0K01GiE0Eb1z63z41Am2A9D55e6E0ytx2p131yiEe0113of06052z00yq0C4x5C-qxvRQgxmG" ++
  "62z30a1A0x1z60Av3c1xq3Ti1QynfHbhy01xm7xd2y51Rq0xuyc3c30xXu0Mp6Ne0H18HpjxLqcyH8sP_g0TwtClx423" ++
  "Jj6mfgTo1ly130BqymzZ80y_g1Eexb4z3ce2e1e1x4l4v0xt2xt0Bi5Aq-o3g3c3Cp6b40fb4xn896x78t2b41e8x7Gn" ++
  "8d2c3a3xo104f2b497Ai1yra0"

/-- Marks, which follow the direction of what they stand on. -/
def nonspacingText : String :=
  "U0xv20381vEj6E7xc10111110y8axgkg0z56252113x30uqyraxq890o3181214xb2xr8xan1vxn010474036a1t0xq0" ++
  "4380k1q021xp041412230u130b1xp0441140k1m510xq020138071b1u0xt0c0xi030xn012521371b1t0xq0f1k1s1x" ++
  "p14380k1t0y807210yq026c7z2028b6y91r01010xn110541012115513131313131b1290z63151121p142g3d02160" ++
  "f0Rv2Zi2t1u1u1y36802a90B71x20zm2419062Cr120xq0161010276920xgxd2bk3xg0141050x88c1x032112xo011" ++
  "3012xq721Ao21c16406031C6xvSgx0y_u2Ad0z0vNa3zb1ZKk319x01yg1Eg03040p150An1qhd0x67paxe2xg02321x" ++
  "70y352121c080xf0xj012215110xa180De02040PVg0U1f-d0D20Al4xQ621153x8240B51Nt3y14Ft1yd5y6axh3zr0" ++
  "xmex9021a2xh32170xt2x4417xu0c1xk8a320yv220116020At037l1xp130x5634y65d01010e1yl72210n0yk51041" ++
  "11De36111r1yl72011za0102510z522314E3811E011040Ag32140x0521x8523809522xec11C601210C9615ykl261" ++
  "111zq530111610y813010Gr1b1xk45010n0BD506eHC8b32yK04xr6xwo0xv3yh0PBo1AP1xd2mN02h726u3Ak2xZrxm" ++
  "4xh80e0m41exGg61g261114z40B06Hn0xt3Ls3Du1Dj0207150Kq6zd6"

end Domain

end Format

end DocumentModel
