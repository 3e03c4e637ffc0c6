import DocumentModel.Text.CharRanges

/-!
# Letter case

The classes of characters that are the same when case is ignored, by the simple case folding of
Unicode. Written classes of one size follow each other in ascending order: the distance of the
first member from that of the class before, and the distances between members.
-/

namespace DocumentModel

namespace Pattern

def foldPairsText : String :=
  "y1x01x01x01x01x01x01x01x01x01x02x01x01x01x01x01x01x02x01x01x01x01x01x01x0z6x01x01x01x01x02" ++
  "x01x01x01x01x01x01x01x01x01x01x01x01x01x01x01x01x02x01x01x01x01x01x01x01DJvx0zp11212121212" ++
  "121212121212121212121212121212121212141212131212121212121213121212121212121212121212121212" ++
  "1212121212121213121213C31Ci11212Ce112Cd1Cd113yf1Ca1Cb112Cd1Cf1z11Cj1Ch112B31xFO11Cj1Cl1A21" ++
  "Cm1121212Cq112Cq312Cq112Cp1Cp11212Cr11413xoe1212121212121213121212121212121216141212121212" ++
  "121212121212121212121212121214121212121212121218GNb113GN81GNv1GNv113y51y711212121212GMv1GM" ++
  "s1GMuaxFGf5xFGb3xFH71xFF81xFG44xFG41GLn1xFG15GLtcGL75xFG35xFFamxFEl1xFEiCi121415A21A21A22z" ++
  "k7x62x51x51x52y02xv1xv1Dy31x02x01x02x01x04x02x01x01x05x01x02x01x02x01x05Dxjv89121212121212" ++
  "121212121214751316yg1yg1yg1yg1yg1yg1yg1yg1yg1yg1yg1yg1yg1yg1yg1yg1x01x02x02x01x01x01x01x01" ++
  "x01x01x01x02x01x03x01x01x01x01x01x01x02x01x01x01x01x0xh1412121212121212121212121212121a121" ++
  "212121212121212121212121212121212121212121212121212f11212121212121312121212121212121212121" ++
  "2121212121212121212121212121212121212121212121212121212121212121212121213xg1xg1xg1xg1xg1xg" ++
  "1xg1xg1xg1xg1xg1xg1xg1xg1xg1xg1xg1xg1xg1xg1xg1xg1xg1xg1xg1xg1xg1xg1xg1xg1xg1xg1xg1xg1xg1xg" ++
  "1xg1xgyWaDz01Dz01Dz01Dz01Dz01Dz01Dz01Dz01Dz01Dz01Dz01Dz01Dz01Dz01Dz01Dz01Dz01Dz01Dz01Dz01D" ++
  "z01Dz01Dz01Dz01Dz01Dz01Dz01Dz01Dz01Dz01Dz01Dz01Dz01Dz01Dz01Dz01Dz01Dz02Dz06Dz03y-01y-01y-0" ++
  "1y-01y-01y-01y-01y-01y-01y-01y-01y-01y-01y-01y-01y-01y-01y-01y-01y-01y-01y-01y-01y-01y-01y" ++
  "-01y-01y-01y-01y-01y-01y-01y-01y-01y-01y-01y-01y-01y-01y-01y-01y-01y-03y-01y-01y-0R1xB-g1x" ++
  "B-g1xB-g1xB-g1xB-g1xB-g1xB-g1xB-g1xB-g1xB-g1xB-g1xB-g1xB-g1xB-g1xB-g1xB-g1xB-g1xB-g1xB-g1x" ++
  "B-g1xB-g1xB-g1xB-g1xB-g1xB-g1xB-g1xB-g1xB-g1xB-g1xB-g1xB-g1xB-g1xB-g1xB-g1xB-g1xB-g1xB-g1x" ++
  "B-g1xB-g1xB-g1xB-g1xB-g1xB-g1xB-g1xB-g1xB-g1xB-g1xB-g1xB-g1xB-g1xB-g1xB-g1xB-g1xB-g1xB-g1x" ++
  "B-g1xB-g1xB-g1xB-g1xB-g1xB-g1xB-g1xB-g1xB-g1xB-g1xB-g1xB-g1xB-g1xB-g1xB-g1xB-g1xB-g1xB-g1x" ++
  "B-g1xB-g1xB-g1xB-g1xB-g1xB-g1xB-g181818181818yAk1DgxyM44zT6hxyNozi121212121212121212121212" ++
  "121212121212121212121212121212121212121212121212121212121212121212121214121212121212121212" ++
  "121212121212121212121212121212121c12121212121212121212121212121212121212121212121212121212" ++
  "1212121212121212121212121212121212121212818181818181818981818181818b8181818181818189818181" ++
  "818181818981818181818c828282898181818181818189ya1ya1ym1ym1ym1ym1z41z41A01A01zg1zg1zu1zu381" ++
  "818181818181898181818181818189818181818181818981829g9d818f81847e9Fvsxeg1g1g1g1g1g1g1g1g1g1" ++
  "g1g1g1g1g1gk1Vjq1q1q1q1q1q1q1q1q1q1q1q1q1q1q1q1q1q1q1q1q1q1q1q1q1qxVhxg1xg1xg1xg1xg1xg1xg1" ++
  "xg1xg1xg1xg1xg1xg1xg1xg1xg1xg1xg1xg1xg1xg1xg1xg1xg1xg1xg1xg1xg1xg1xg1xg1xg1xg1xg1xg1xg1xg1" ++
  "xg1xg1xg1xg1xg1xg1xg1xg1xg1xg1xgxh17121217131b12121212121212121212121212121212121212121212" ++
  "1212121212121212121212121212121212121212121212121212121912151-Ge12121212141212121212121212" ++
  "12121212121212121k121212121212121212121212121A81212121212121412121212121212121212121212121" ++
  "21212121212121212121212121212121b12131212121215151212xg21212121212121212121bZ0112121212121" ++
  "212151213141612121r1QUg1xwsx01x01x01x01x01x01x01x01x01x01x01x01x01x01x01x01x01x01x01x01x01" ++
  "x01x01x01x01x0xC6x81x81x81x81x81x81x81x81x81x81x81x81x81x81x81x81x81x81x81x81x81x81x81x81x" ++
  "81x81x81x81x81x81x81x81x81x81x81x81x81x81x81x8A9x81x81x81x81x81x81x81x81x81x81x81x81x81x81" ++
  "x81x81x81x81x81x81x81x81x81x81x81x81x81x81x81x81x81x81x81x81x81x8Atx71x71x71x71x71x71x71x7" ++
  "1x71x71x72x71x71x71x71x71x71x71x71x71x71x71x71x71x71x72x71x71x71x71x71x71x72x71x7xTby01y01" ++
  "y01y01y01y01y01y01y01y01y01y01y01y01y01y01y01y01y01y01y01y01y01y01y01y01y01y01y01y01y01y01" ++
  "y01y01y01y01y01y01y01y01y01y01y01y01y01y01y01y01y01y01y0Aux01x01x01x01x01x01x01x01x01x01x0" ++
  "1x01x01x01x01x01x01x01x01x01x01x0yVrx01x01x01x01x01x01x01x01x01x01x01x01x01x01x01x01x01x01" ++
  "x01x01x01x01x01x01x01x01x01x01x01x01x01x0RI1x01x01x01x01x01x01x01x01x01x01x01x01x01x01x01x" ++
  "01x01x01x01x01x01x01x01x01x01x01x01x01x01x01x01x0-R1x21x21x21x21x21x21x21x21x21x21x21x21x2" ++
  "1x21x21x21x21x21x21x21x21x21x21x21x21x21x21x21x21x21x21x21x21x2"

def foldTriplesText : String :=
  "ybx0EBv8x0Ecz2T7x0gx0Ey6Dv11311311x711J1x0u3x0y05x0xm6x0m1x0xg2v13x0f3x0DGtz9x0Cye2x0Cydax" ++
  "0Cy43x0Cy29x0Cxsxo1Cx4Cx6xyK21Ko1xq"

def foldQuadruplesText : String :=
  "W5ykx0Dw5yjx0px3Aax0Cy21"

def foldPairs (first : Nat) : List Nat → List (List Nat)
  | a :: b :: rest => [first + a, first + a + b] :: foldPairs (first + a) rest
  | _ => []

def foldTriples (first : Nat) : List Nat → List (List Nat)
  | a :: b :: c :: rest =>
    [first + a, first + a + b, first + a + b + c] :: foldTriples (first + a) rest
  | _ => []

def foldQuadruples (first : Nat) : List Nat → List (List Nat)
  | a :: b :: c :: d :: rest =>
    [first + a, first + a + b, first + a + b + c, first + a + b + c + d] ::
      foldQuadruples (first + a) rest
  | _ => []

/-- The classes with more than one member. -/
def foldClasses : List (List Nat) :=
  let numbers := fun text => (Text.CharRanges.numbers text).toList
  foldPairs 0 (numbers foldPairsText) ++ foldTriples 0 (numbers foldTriplesText)
    ++ foldQuadruples 0 (numbers foldQuadruplesText)

end Pattern

end DocumentModel
