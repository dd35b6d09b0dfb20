import WebDispatch.Json.Basic

namespace WebDispatch.Json

def digitValue (c : Char) : Nat :=
  c.toNat - 48

def digitsValue (digits : List Char) : Nat :=
  digits.foldl (fun n c ↦ n * 10 + digitValue c) 0

/-- Digits gathered as a significand of 64 bits and a count of places. -/
structure Significand where
  value : Nat := 0
  exponent : Int := 0
  full : Bool := false
  deriving DecidableEq, Repr

namespace Significand

def maxValue : Nat := 0xFFFFFFFFFFFFFFFF

/-- A digit before the point; once one does not fit, every later one only adds a place. -/
def addWhole (s : Significand) (c : Char) : Significand :=
  if !s.full && s.value * 10 + digitValue c ≤ maxValue then
    { s with value := s.value * 10 + digitValue c }
  else { s with exponent := s.exponent + 1, full := true }

def addFraction (s : Significand) (c : Char) : Significand :=
  if !s.full && s.value * 10 + digitValue c ≤ maxValue then
    { s with value := s.value * 10 + digitValue c, exponent := s.exponent - 1 }
  else { s with full := true }

def ofWhole (digits : List Char) : Significand :=
  digits.foldl addWhole {}

def withFraction (s : Significand) (digits : List Char) : Significand :=
  digits.foldl addFraction { s with full := false }

end Significand

namespace Number

def ofScientific? (negative : Bool) (significand : Nat) (exponent : Int) : Option Number :=
  (Double.ofScientific significand exponent).map fun x ↦ .float (if negative then x.neg else x)

def ofWhole? (negative : Bool) (s : Significand) : Option Number :=
  if s.full then ofScientific? negative s.value s.exponent
  else if negative then
    if s.value = 0 ∨ 0x8000000000000000 < s.value then ofScientific? true s.value 0
    else some (.int (-(s.value : Int)))
  else some (.int s.value)

def ofDecimal? (negative : Bool) (s : Significand) : Option Number :=
  ofScientific? negative s.value s.exponent

/-- The greatest power of ten that is read exactly; a larger one is as good as infinite. -/
def maxPower : Nat := 0x7FFFFFFF

def scaled? (negative : Bool) (s : Significand) (down : Bool) (power : Nat) : Option Number :=
  if power ≤ maxPower then
    ofScientific? negative s.value (if down then s.exponent - power else s.exponent + power)
  else if s.value = 0 ∨ down then some (.float (if negative then Double.zero.neg else Double.zero))
  else none

end Number

end WebDispatch.Json
