import DialogueQuery.Text.CodePoint

/-! Reading text from code units of two or four bytes. A lone half of a
surrogate pair is kept; units that are cut off or out of range are refused. -/

namespace DialogueQuery.Text

inductive ByteOrder where
  | bigEndian
  | littleEndian
deriving DecidableEq, Repr

def ByteOrder.value (order : ByteOrder) (bytes : List Nat) : Nat :=
  let digits := match order with
    | bigEndian => bytes
    | littleEndian => bytes.reverse
  digits.foldl (fun n b => n * 256 + b) 0

namespace Utf16

def units (order : ByteOrder) : List Nat → Option (List Nat)
  | [] => some []
  | [_] => none
  | a :: b :: rest => (units order rest).map (order.value [a, b] :: ·)

/-- The code points of units; two halves that follow one another make one. -/
def codePoints : List Nat → List CodePoint
  | [] => []
  | [n] => [.ofNat n]
  | n :: m :: rest =>
    if CodePoint.isHighHalf n && CodePoint.isLowHalf m then .ofPair n m :: codePoints rest
    else .ofNat n :: codePoints (m :: rest)

def decode (order : ByteOrder) (bytes : List Nat) : Option (List CodePoint) :=
  (units order bytes).map codePoints

end Utf16

namespace Utf32

def decode (order : ByteOrder) : List Nat → Option (List CodePoint)
  | [] => some []
  | a :: b :: c :: d :: rest =>
    let n := order.value [a, b, c, d]
    if n ≤ 0x10ffff then (decode order rest).map (.ofNat n :: ·) else none
  | _ => none

end Utf32

end DialogueQuery.Text
