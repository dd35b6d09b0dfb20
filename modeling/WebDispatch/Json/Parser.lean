import WebDispatch.Json.Number
import WebDispatch.Text.Hex

namespace WebDispatch.Json.Parser

def isBlank (c : Char) : Bool :=
  c == ' ' || c == '\n' || c == '\t' || c == '\r'

def skipBlanks (cs : List Char) : List Char :=
  cs.dropWhile isBlank

/-! ### Strings -/

def hex4 : List Char → Option (Nat × List Char)
  | a :: b :: c :: d :: cs => do
    let w ← Text.Hex.digit? a.toNat
    let x ← Text.Hex.digit? b.toNat
    let y ← Text.Hex.digit? c.toNat
    let z ← Text.Hex.digit? d.toNat
    return (w * 4096 + x * 256 + y * 16 + z, cs)
  | _ => none

/-- The character that an escape by number stands for; one beyond 16 bits takes two numbers, the
halves of a surrogate pair, which never stand alone. -/
def numbered (cs : List Char) : Option (Char × List Char) := do
  let (n, cs) ← hex4 cs
  if 0xDC00 ≤ n ∧ n ≤ 0xDFFF then none
  else if 0xD800 ≤ n ∧ n ≤ 0xDBFF then
    match cs with
    | '\\' :: 'u' :: cs =>
      let (m, cs) ← hex4 cs
      guard (0xDC00 ≤ m ∧ m ≤ 0xDFFF)
      return (.ofNat (0x10000 + (n - 0xD800) * 0x400 + (m - 0xDC00)), cs)
    | _ => none
  else return (.ofNat n, cs)

def escaped : List Char → Option (Char × List Char)
  | '"' :: cs => some ('"', cs)
  | '\\' :: cs => some ('\\', cs)
  | '/' :: cs => some ('/', cs)
  | 'b' :: cs => some ('\x08', cs)
  | 'f' :: cs => some ('\x0c', cs)
  | 'n' :: cs => some ('\n', cs)
  | 'r' :: cs => some ('\r', cs)
  | 't' :: cs => some ('\t', cs)
  | 'u' :: cs => numbered cs
  | _ => none

/-- A string after its opening quote. Every step takes a character, so the length of the text is
fuel enough. -/
def stringRest : Nat → List Char → Option (List Char × List Char)
  | 0, _ => none
  | _, [] => none
  | fuel + 1, c :: cs =>
    if c = '"' then some ([], cs)
    else if c = '\\' then do
      let (d, cs) ← escaped cs
      let (s, cs) ← stringRest fuel cs
      return (d :: s, cs)
    else if c.toNat < 0x20 then none
    else do
      let (s, cs) ← stringRest fuel cs
      return (c :: s, cs)

def string (cs : List Char) : Option (String × List Char) :=
  (stringRest (cs.length + 1) cs).map fun p ↦ (.ofList p.1, p.2)

/-! ### Numbers -/

def power (cs : List Char) : Option (Bool × Nat × List Char) :=
  let (down, cs) := match cs with
    | '+' :: cs => (false, cs)
    | '-' :: cs => (true, cs)
    | cs => (false, cs)
  let digits := cs.takeWhile Char.isDigit
  if digits.isEmpty then none else some (down, digitsValue digits, cs.dropWhile Char.isDigit)

def scaled (negative : Bool) (s : Significand) (cs : List Char) : Option (Number × List Char) := do
  let (down, power, cs) ← power cs
  return (← Number.scaled? negative s down power, cs)

def decimal (negative : Bool) (s : Significand) (cs : List Char) : Option (Number × List Char) :=
  match cs with
  | 'e' :: cs => scaled negative s cs
  | 'E' :: cs => scaled negative s cs
  | cs => (Number.ofDecimal? negative s).map (·, cs)

def wholeDigits (cs : List Char) : Option (List Char × List Char) :=
  match cs with
  | '0' :: cs => if (cs.head?.map Char.isDigit).getD false then none else some (['0'], cs)
  | cs =>
    let digits := cs.takeWhile Char.isDigit
    if digits.isEmpty then none else some (digits, cs.dropWhile Char.isDigit)

def unsigned (negative : Bool) (cs : List Char) : Option (Number × List Char) := do
  let (digits, cs) ← wholeDigits cs
  let s := Significand.ofWhole digits
  match cs with
  | '.' :: cs =>
    let fraction := cs.takeWhile Char.isDigit
    guard (!fraction.isEmpty)
    decimal negative (s.withFraction fraction) (cs.dropWhile Char.isDigit)
  | 'e' :: cs => scaled negative s cs
  | 'E' :: cs => scaled negative s cs
  | cs => (Number.ofWhole? negative s).map (·, cs)

def number (cs : List Char) : Option (Number × List Char) :=
  match cs with
  | '-' :: cs => unsigned true cs
  | cs => unsigned false cs

/-! ### Values -/

mutual

/-- A value, with the number of brackets that may still open inside one another. Every call but
those from one function straight into the next takes a character, so twice the length of the text is
fuel enough. -/
def value : Nat → Nat → List Char → Option (Json × List Char)
  | 0, _, _ => none
  | fuel + 1, depth, cs =>
    match skipBlanks cs with
    | 'n' :: 'u' :: 'l' :: 'l' :: cs => some (.null, cs)
    | 't' :: 'r' :: 'u' :: 'e' :: cs => some (.bool true, cs)
    | 'f' :: 'a' :: 'l' :: 's' :: 'e' :: cs => some (.bool false, cs)
    | '"' :: cs => (string cs).map fun p ↦ (.string p.1, p.2)
    | '[' :: cs =>
      match depth with
      | 0 => none
      | depth + 1 =>
        match skipBlanks cs with
        | ']' :: cs => some (.array [], cs)
        | cs => (items fuel depth cs).map fun p ↦ (.array p.1, p.2)
    | '{' :: cs =>
      match depth with
      | 0 => none
      | depth + 1 =>
        match skipBlanks cs with
        | '}' :: cs => some (.object [], cs)
        | cs => (fields fuel depth cs).map fun p ↦ (ofFields p.1, p.2)
    | cs => (number cs).map fun p ↦ (.number p.1, p.2)

def items : Nat → Nat → List Char → Option (List Json × List Char)
  | 0, _, _ => none
  | fuel + 1, depth, cs => do
    let (x, cs) ← value fuel depth cs
    match skipBlanks cs with
    | ']' :: cs => return ([x], cs)
    | ',' :: cs =>
      let (xs, cs) ← items fuel depth cs
      return (x :: xs, cs)
    | _ => none

def fields : Nat → Nat → List Char → Option (List (String × Json) × List Char)
  | 0, _, _ => none
  | fuel + 1, depth, cs =>
    match skipBlanks cs with
    | '"' :: cs => do
      let (k, cs) ← string cs
      match skipBlanks cs with
      | ':' :: cs =>
        let (v, cs) ← value fuel depth cs
        match skipBlanks cs with
        | '}' :: cs => return ([(k, v)], cs)
        | ',' :: cs =>
          let (fs, cs) ← fields fuel depth cs
          return ((k, v) :: fs, cs)
        | _ => none
      | _ => none
    | _ => none

end

def maxDepth : Nat := 127

/-- The value of a whole text. Of two fields of one name the later counts. -/
def parse? (s : String) : Option Json := do
  let cs := s.toList
  let (v, cs) ← value (2 * cs.length + 2) maxDepth cs
  guard (skipBlanks cs).isEmpty
  return v

end WebDispatch.Json.Parser
