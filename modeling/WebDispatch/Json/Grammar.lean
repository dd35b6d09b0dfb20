import WebDispatch.Json.Number
import WebDispatch.Text.Hex

namespace WebDispatch.Json.Grammar

def Blank (w : List Char) : Prop :=
  ∀ c ∈ w, c = ' ' ∨ c = '\n' ∨ c = '\t' ∨ c = '\r'

def Digits (w : List Char) : Prop :=
  w ≠ [] ∧ ∀ c ∈ w, c.isDigit = true

structure Whole (w : List Char) : Prop where
  digits : Digits w
  leading : w.head? = some '0' → w = ['0']

inductive Sign : List Char → Bool → Prop
  | none : Sign [] false
  | minus : Sign ['-'] true

inductive Decimal : List Char → Significand → Prop
  | whole {w : List Char} (hw : Whole w) : Decimal w (.ofWhole w)
  | fraction {w f : List Char} (hw : Whole w) (hf : Digits f) :
      Decimal (w ++ '.' :: f) ((Significand.ofWhole w).withFraction f)

inductive Power : List Char → Bool → Nat → Prop
  | bare {w : List Char} (hw : Digits w) : Power w false (digitsValue w)
  | plus {w : List Char} (hw : Digits w) : Power ('+' :: w) false (digitsValue w)
  | minus {w : List Char} (hw : Digits w) : Power ('-' :: w) true (digitsValue w)

/-- The text of a number. One that is no integer of 64 bits must not be too large for a
floating-point number. -/
inductive Numeral : List Char → Number → Prop
  | whole {sign w : List Char} {negative : Bool} {n : Number} (hsign : Sign sign negative)
      (hw : Whole w) (hn : Number.ofWhole? negative (.ofWhole w) = some n) : Numeral (sign ++ w) n
  | fraction {sign w f : List Char} {negative : Bool} {n : Number} (hsign : Sign sign negative)
      (hw : Whole w) (hf : Digits f)
      (hn : Number.ofDecimal? negative ((Significand.ofWhole w).withFraction f) = some n) :
      Numeral (sign ++ (w ++ '.' :: f)) n
  | power {sign d p : List Char} {s : Significand} {negative down : Bool} {e : Char} {k : Nat}
      {n : Number} (hsign : Sign sign negative) (hd : Decimal d s) (he : e = 'e' ∨ e = 'E')
      (hp : Power p down k) (hn : Number.scaled? negative s down k = some n) :
      Numeral (sign ++ (d ++ e :: p)) n

inductive Hex4 : List Char → Nat → Prop
  | mk {a b c d : Char} {w x y z : Nat} (ha : Text.Hex.digit? a.toNat = some w)
      (hb : Text.Hex.digit? b.toNat = some x) (hc : Text.Hex.digit? c.toNat = some y)
      (hd : Text.Hex.digit? d.toNat = some z) :
      Hex4 [a, b, c, d] (w * 4096 + x * 256 + y * 16 + z)

def letters : List (Char × Char) :=
  [('"', '"'), ('\\', '\\'), ('/', '/'), ('b', '\x08'), ('f', '\x0c'), ('n', '\n'), ('r', '\r'),
    ('t', '\t')]

/-- What stands between quotes, and the characters that it means. An escaped surrogate means
something only as the first of a pair with its second. -/
inductive Quoted : List Char → List Char → Prop
  | nil : Quoted [] []
  | plain {c : Char} {w s : List Char} (hquote : c ≠ '"') (hescape : c ≠ '\\')
      (hcontrol : 0x20 ≤ c.toNat) (rest : Quoted w s) : Quoted (c :: w) (c :: s)
  | letter {e c : Char} {w s : List Char} (h : (e, c) ∈ letters) (rest : Quoted w s) :
      Quoted ('\\' :: e :: w) (c :: s)
  | unit {h w s : List Char} {n : Nat} (hn : Hex4 h n) (hlone : ¬ (0xD800 ≤ n ∧ n ≤ 0xDFFF))
      (rest : Quoted w s) : Quoted ('\\' :: 'u' :: (h ++ w)) (.ofNat n :: s)
  | pair {h l w s : List Char} {m n : Nat} (hm : Hex4 h m) (hhigh : 0xD800 ≤ m ∧ m ≤ 0xDBFF)
      (hn : Hex4 l n) (hlow : 0xDC00 ≤ n ∧ n ≤ 0xDFFF) (rest : Quoted w s) :
      Quoted ('\\' :: 'u' :: (h ++ '\\' :: 'u' :: (l ++ w)))
        (.ofNat (0x10000 + (m - 0xD800) * 0x400 + (n - 0xDC00)) :: s)

mutual

/-- The text of a value whose brackets open at most so deep inside one another. -/
inductive Value : Nat → List Char → Json → Prop
  | null {depth : Nat} : Value depth ['n', 'u', 'l', 'l'] .null
  | true {depth : Nat} : Value depth ['t', 'r', 'u', 'e'] (.bool true)
  | false {depth : Nat} : Value depth ['f', 'a', 'l', 's', 'e'] (.bool false)
  | number {depth : Nat} {w : List Char} {n : Number} (h : Numeral w n) : Value depth w (.number n)
  | string {depth : Nat} {w s : List Char} (h : Quoted w s) :
      Value depth ('"' :: (w ++ ['"'])) (.string (.ofList s))
  | emptyArray {depth : Nat} {b : List Char} (hb : Blank b) :
      Value (depth + 1) ('[' :: (b ++ [']'])) (.array [])
  | array {depth : Nat} {w : List Char} {vs : List Json} (h : Items depth w vs) :
      Value (depth + 1) ('[' :: (w ++ [']'])) (.array vs)
  | emptyObject {depth : Nat} {b : List Char} (hb : Blank b) :
      Value (depth + 1) ('{' :: (b ++ ['}'])) (.object [])
  | object {depth : Nat} {w : List Char} {fs : List (String × Json)} (h : Fields depth w fs) :
      Value (depth + 1) ('{' :: (w ++ ['}'])) (ofFields fs)

inductive Items : Nat → List Char → List Json → Prop
  | one {depth : Nat} {b w b' : List Char} {v : Json} (hb : Blank b) (h : Value depth w v)
      (hb' : Blank b') : Items depth (b ++ (w ++ b')) [v]
  | more {depth : Nat} {b w b' ws : List Char} {v : Json} {vs : List Json} (hb : Blank b)
      (h : Value depth w v) (hb' : Blank b') (rest : Items depth ws vs) :
      Items depth (b ++ (w ++ (b' ++ ',' :: ws))) (v :: vs)

inductive Fields : Nat → List Char → List (String × Json) → Prop
  | one {depth : Nat} {b k s b' c w c' : List Char} {v : Json} (hb : Blank b) (hk : Quoted k s)
      (hb' : Blank b') (hc : Blank c) (h : Value depth w v) (hc' : Blank c') :
      Fields depth (b ++ '"' :: (k ++ '"' :: (b' ++ ':' :: (c ++ (w ++ c'))))) [(.ofList s, v)]
  | more {depth : Nat} {b k s b' c w c' ws : List Char} {v : Json} {fs : List (String × Json)}
      (hb : Blank b) (hk : Quoted k s) (hb' : Blank b') (hc : Blank c) (h : Value depth w v)
      (hc' : Blank c') (rest : Fields depth ws fs) :
      Fields depth (b ++ '"' :: (k ++ '"' :: (b' ++ ':' :: (c ++ (w ++ (c' ++ ',' :: ws))))))
        ((.ofList s, v) :: fs)

end

/-- A whole text: a value of at most 127 nested brackets, between blanks. -/
def Denotes (text : String) (v : Json) : Prop :=
  ∃ b w b', text.toList = b ++ (w ++ b') ∧ Blank b ∧ Value 127 w v ∧ Blank b'

end WebDispatch.Json.Grammar
