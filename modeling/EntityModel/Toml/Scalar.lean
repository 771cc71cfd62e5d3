import EntityModel.Number.Binary64
import EntityModel.Text.Decimal
import EntityModel.Text.Hex
import EntityModel.Toml.Value

/-! # Numbers, truth values and times in TOML

What may stand for a value besides strings, arrays and tables is one word of letters, digits and the
marks `+ - _ . :`; only a date and a time may be two. -/

namespace EntityModel.Toml.Scalar

/-- Whether the character may stand in a word. -/
def isWordChar (c : Char) : Bool :=
  c.isAlphanum || c = '+' || c = '-' || c = '_' || c = '.' || c = ':'

/-! ## Numbers -/

/-- Whether the word consists of digits, with single underscores between some of them. -/
def areDigits (isDigit : Char → Bool) : List Char → Bool
  | [] => false
  | [c] => isDigit c
  | c :: '_' :: rest => isDigit c && areDigits isDigit rest
  | c :: rest => isDigit c && areDigits isDigit rest

/-- Whether the word consists of decimal digits without a zero in front of others. -/
def isWhole (word : List Char) : Bool :=
  areDigits Char.isDigit word && (word.length = 1 || word.head? ≠ some '0')

/-- The digits of a word without its underscores. -/
def digits (word : List Char) : List Char := word.filter (· ≠ '_')

/-- A word without its sign, and whether that is a minus. -/
def unsigned : List Char → Bool × List Char
  | '-' :: word => (true, word)
  | '+' :: word => (false, word)
  | word => (false, word)

/-- The least integer beyond the 64-bit ones, `2 ^ 63`. -/
def integerBound : Nat := 9223372036854775808

/-- The integer, if it has 64 bits. -/
def integerOf? (negative : Bool) (n : Nat) : Option Value :=
  if negative ∧ n ≤ integerBound then some (.integer (-n))
  else if ¬negative ∧ n < integerBound then some (.integer n)
  else none

/-- The integer of a word in another base. -/
def basedInteger? (base : Nat) (word : List Char) : Option Value :=
  let isDigit (c : Char) : Bool := (Text.hexValue? c).any (· < base)
  if areDigits isDigit word then
    integerOf? false ((digits word).foldl (fun n c => n * base + (Text.hexValue? c).getD 0) 0)
  else none

/-- The integer of a word. Only a decimal one may have a sign. -/
def integer? (word : List Char) : Option Value :=
  match word with
  | '0' :: 'x' :: rest => basedInteger? 16 rest
  | '0' :: 'o' :: rest => basedInteger? 8 rest
  | '0' :: 'b' :: rest => basedInteger? 2 rest
  | _ =>
    let (negative, rest) := unsigned word
    if isWhole rest then integerOf? negative (Text.decimalValue (digits rest)) else none

/-- Whether `significand * 10 ^ exponent` is beyond the greatest double. A number with more than 309
digits in front of the point is, and one with less is not. -/
def isHuge (significand : Nat) (exponent : Int) : Bool :=
  let length : Int := (Nat.toDigits 10 significand).length + exponent
  if significand = 0 || length < 309 then false
  else if 309 < length then true
  else
    (Number.Magnitude.nearest? (significand * Nat.pow 10 exponent.toNat)
      (Nat.pow 10 (-exponent).toNat)).isNone

/-- Whether the word may be the exponent of a number. -/
def isExponent (word : List Char) : Bool := areDigits Char.isDigit (unsigned word).2

/-- The value of an exponent. -/
def exponentValue (word : List Char) : Int :=
  let (negative, rest) := unsigned word
  let n : Int := Text.decimalValue (digits rest)
  if negative then -n else n

/-- Whether the word without its sign is a number with a fraction or an exponent. A positive one has
to be within the range of doubles. -/
def isFloat (negative : Bool) (word : List Char) : Bool :=
  let mantissa := word.takeWhile fun c => c ≠ 'e' && c ≠ 'E'
  let exponent := (word.drop mantissa.length).drop 1
  let whole := mantissa.takeWhile (· ≠ '.')
  let fraction := (mantissa.drop whole.length).drop 1
  let hasExponent := mantissa.length < word.length
  let hasFraction := whole.length < mantissa.length
  (hasExponent || hasFraction) && isWhole whole &&
    (!hasFraction || areDigits Char.isDigit fraction) && (!hasExponent || isExponent exponent) &&
    (negative ||
      !isHuge (Text.decimalValue (digits whole ++ digits fraction))
        (exponentValue exponent - (digits fraction).length))

/-- The floating-point number of a word. -/
def float? (word : List Char) : Option Value :=
  let (negative, rest) := unsigned word
  if rest = ['i', 'n', 'f'] ∨ rest = ['n', 'a', 'n'] ∨ isFloat negative rest then
    some (.float (String.ofList word))
  else none

/-! ## Times -/

/-- The number in so many digits, if it is between the bounds, and the text behind it. -/
def field? (width least greatest : Nat) (text : List Char) : Option (Nat × List Char) :=
  let word := text.take width
  let n := Text.decimalValue word
  if word.length = width ∧ word.all Char.isDigit ∧ least ≤ n ∧ n ≤ greatest then
    some (n, text.drop width)
  else none

/-- The text behind the character. -/
def after? (c : Char) : List Char → Option (List Char)
  | d :: rest => if d = c then some rest else none
  | [] => none

/-- The number of days of a month. -/
def daysOf (year month : Nat) : Nat :=
  if month = 2 then
    if year % 4 = 0 ∧ (year % 100 ≠ 0 ∨ year % 400 = 0) then 29 else 28
  else if month = 4 ∨ month = 6 ∨ month = 9 ∨ month = 11 then 30
  else 31

/-- The text behind a date. -/
def afterDate? (text : List Char) : Option (List Char) := do
  let (year, rest) ← field? 4 0 9999 text
  let (month, rest) ← field? 2 1 12 (← after? '-' rest)
  let (_, rest) ← field? 2 1 (daysOf year month) (← after? '-' rest)
  return rest

/-- The text behind an hour and a minute. -/
def afterMinute? (text : List Char) : Option (List Char) := do
  let (_, rest) ← field? 2 0 23 text
  let (_, rest) ← field? 2 0 59 (← after? ':' rest)
  return rest

/-- The text behind a time of day. Its seconds may have a fraction. -/
def afterTime? (text : List Char) : Option (List Char) := do
  let (_, rest) ← field? 2 0 60 (← after? ':' (← afterMinute? text))
  match rest with
  | '.' :: d :: rest => if d.isDigit then some (rest.dropWhile Char.isDigit) else none
  | '.' :: [] => none
  | _ => some rest

/-- Whether the word is the distance to universal time, or nothing. -/
def isOffset : List Char → Bool
  | [] => true
  | ['Z'] => true
  | ['z'] => true
  | '+' :: rest => afterMinute? rest = some []
  | '-' :: rest => afterMinute? rest = some []
  | _ => false

/-- Whether the word is a date. -/
def isDate (word : List Char) : Bool := afterDate? word = some []

/-- Whether the word is a time of day that may follow a date. -/
def isTimeOfDate (word : List Char) : Bool := (afterTime? word).any isOffset

/-- Whether the word is a date, a time of day, or both. -/
def isMoment (word : List Char) : Bool :=
  afterTime? word = some [] ||
    match afterDate? word with
    | some [] => true
    | some ('T' :: rest) => isTimeOfDate rest
    | some ('t' :: rest) => isTimeOfDate rest
    | _ => false

/-! ## Words -/

/-- The value of a word. -/
def ofWord? (word : List Char) : Option Value :=
  if word = ['t', 'r', 'u', 'e'] then some (.boolean true)
  else if word = ['f', 'a', 'l', 's', 'e'] then some (.boolean false)
  else if isMoment word then some (.moment (String.ofList word))
  else (integer? word).or (float? word)

/-- The value at the start of a text and the text behind it. A time may follow its date behind a
blank. -/
def read? (text : List Char) : Option (Value × List Char) := do
  let word := text.takeWhile isWordChar
  let rest := text.drop word.length
  match rest with
  | ' ' :: more =>
    let time := more.takeWhile isWordChar
    -- Behind a date and a blank, what looks like a word has to be the time of that date.
    if isDate word ∧ time ≠ [] then
      if isTimeOfDate time then
        return (.moment (String.ofList (word ++ ' ' :: time)), more.drop time.length)
      else none
    else return (← ofWord? word, rest)
  | _ => return (← ofWord? word, rest)

end EntityModel.Toml.Scalar
