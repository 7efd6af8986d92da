import GoStub.Toml.Table

/-! Reading TOML texts, numbers and dates. -/

namespace GoStub.Toml

/-- Reads something from the front of a text or fails. -/
abbrev Reader := StateT (List Char) Option

namespace Reader

variable {α β : Type}

def peek? : Reader (Option Char) := fun cs =>
  some (cs.head?, cs)

/-- Passes one character that satisfies a test. -/
def one (p : Char → Bool) : Reader Char
  | c :: rest => if p c then some (c, rest) else none
  | [] => none

def char (c : Char) : Reader Unit := do
  let _ ← one (· == c)

def word : List Char → Reader Unit
  | [] => pure ()
  | c :: rest => do
    char c
    word rest

def attempt (r : Reader α) : Reader (Option α) :=
  (some <$> r) <|> pure none

def takeWhile (p : Char → Bool) : Reader (List Char) := fun cs =>
  some (cs.takeWhile p, cs.dropWhile p)

/-- As many as there are, at most `n`. -/
def upTo (r : Reader α) : Nat → Reader (List α)
  | 0 => pure []
  | n + 1 => do
    match ← attempt r with
    | some a => return a :: (← upTo r n)
    | none => return []

/-- As many as there are, for a reader that passes at least one character. -/
def many (r : Reader α) : Reader (List α) := fun cs =>
  upTo r cs.length cs

/-- One or more with a separator between neighbours. -/
def sepBy (r : Reader α) (sep : Reader β) : Reader (List α) := do
  let first ← r
  let rest ← many (sep *> r)
  return first :: rest

/-- Fails unless the test holds. -/
def check (b : Bool) : Reader Unit :=
  if b then pure () else failure

end Reader

open Reader

def isGap (c : Char) : Bool :=
  c == ' ' || c == '\t'

def gap : Reader Unit := do
  let _ ← takeWhile isGap

/-- A line end: a line feed, possibly after a carriage return. -/
def lineEnd : Reader Unit :=
  char '\n' <|> (char '\r' *> char '\n')

/-- Characters that may stand in a comment: no control characters but the tabulator. -/
def isPrintable (c : Char) : Bool :=
  c == '\t' || (32 ≤ c.toNat && c.toNat ≠ 127)

def hexDigit? (c : Char) : Option Nat :=
  if c.isDigit then some (c.toNat - 48)
  else if 'a' ≤ c && c ≤ 'f' then some (c.toNat - 87)
  else if 'A' ≤ c && c ≤ 'F' then some (c.toNat - 55)
  else none

/-- The character with a code of `n` hexadecimal digits. -/
def codePoint : Nat → (code : Nat) → Reader Char
  | 0, code => if code.isValidChar then pure (Char.ofNat code) else failure
  | n + 1, code => do
    let c ← one (fun c => (hexDigit? c).isSome)
    codePoint n (code * 16 + (hexDigit? c).getD 0)

/-- What follows a backslash. -/
def escape : Reader Char := do
  match ← one (fun _ => true) with
  | 'b' => return '\x08'
  | 't' => return '\t'
  | 'n' => return '\n'
  | 'f' => return '\x0c'
  | 'r' => return '\r'
  | '"' => return '"'
  | '\\' => return '\\'
  | 'u' => codePoint 4 0
  | 'U' => codePoint 8 0
  | _ => failure

def basicChar : Reader Char :=
  one (fun c => isPrintable c && c ≠ '"' && c ≠ '\\') <|> (char '\\' *> escape)

def basicText : Reader String := do
  char '"'
  let cs ← many basicChar
  char '"'
  return String.ofList cs

def literalText : Reader String := do
  char '\x27'
  let cs ← takeWhile (fun c => isPrintable c && c ≠ '\x27')
  char '\x27'
  return String.ofList cs

/-- A backslash before a line end takes all white space after it away. -/
def joint : Reader Unit := do
  char '\\'
  gap
  lineEnd
  let _ ← many ((do let _ ← one isGap) <|> lineEnd)

/-- A piece of a text of several lines, quotes apart. -/
def basicPiece : Reader (List Char) :=
  (do joint; return []) <|>
  (do lineEnd; return ['\n']) <|>
  ((fun c => [c]) <$> basicChar)

def literalPiece : Reader (List Char) :=
  (do lineEnd; return ['\n']) <|>
  ((fun c => [c]) <$> one (fun c => isPrintable c && c ≠ '\x27'))

/-- Up to two quotes inside a text of several lines. -/
def innerQuotes (quote : Char) : Reader (List Char) := fun cs =>
  let run := cs.takeWhile (· == quote)
  if 1 ≤ run.length && run.length ≤ 2 then some (run, cs.drop run.length) else none

/-- The end of a text of several lines: three quotes, and up to two more that belong to the text. -/
def lastQuotes (quote : Char) : Reader (List Char) := fun cs =>
  let run := cs.takeWhile (· == quote)
  if 3 ≤ run.length && run.length ≤ 5 then some (run.drop 3, cs.drop run.length) else none

def longText (quote : Char) (piece : Reader (List Char)) : Reader String := do
  word [quote, quote, quote]
  let _ ← attempt lineEnd
  let pieces ← many (piece <|> innerQuotes quote)
  let last ← lastQuotes quote
  return String.ofList (pieces.flatten ++ last)

def text : Reader String :=
  longText '"' basicPiece <|> longText '\x27' literalPiece <|> basicText <|> literalText

/-- Digits with single underscores between them. -/
def digits (p : Char → Bool) : Reader (List Char) := do
  let first ← one p
  let rest ← many (one p <|> (char '_' *> one p))
  return first :: rest

def sign : Reader Bool := do
  match ← attempt (one (fun c => c == '+' || c == '-')) with
  | some c => return c == '-'
  | none => return false

def numeral (base : Nat) (cs : List Char) : Nat :=
  cs.foldl (fun n c => n * base + (hexDigit? c).getD 0) 0

/-- Decimal digits; only zero itself starts with zero. -/
def decimal : Reader (List Char) := do
  match ← peek? with
  | some '0' => do
    char '0'
    return ['0']
  | _ => digits Char.isDigit

def isBelow (base : Nat) (c : Char) : Bool :=
  (hexDigit? c).any (· < base)

/-- The first number too large for an integer. -/
def integerLimit : Nat :=
  0x8000000000000000

/-- A number of a base written with a mark. -/
def based (mark : Char) (base : Nat) : Reader Unit := do
  word ['0', mark]
  let ds ← digits (isBelow base)
  check (numeral base ds < integerLimit)

def integer : Reader Unit :=
  based 'x' 16 <|> based 'o' 8 <|> based 'b' 2 <|> do
    let negative ← sign
    let n := numeral 10 (← decimal)
    check (n < integerLimit || (negative && n == integerLimit))

/-- The power of ten after a number. -/
def exponent : Reader Int := do
  let _ ← one (fun c => c == 'e' || c == 'E')
  let negative ← sign
  let n := numeral 10 (← digits Char.isDigit)
  return if negative then -n else n

/-- Whether `n * 10 ^ e` is too large for a double: half a unit above the largest one. -/
def overflows (n : Nat) (e : Int) : Bool :=
  let limit := Nat.pow 2 1024 - Nat.pow 2 970
  if n = 0 then false
  else if 400 ≤ e then true
  else if 0 ≤ e then limit ≤ n * Nat.pow 10 e.toNat
  else limit * Nat.pow 10 (-e).toNat ≤ n

/-- A number with a fraction or an exponent. -/
def float : Reader Unit := do
  let negative ← sign
  let whole ← decimal
  let fraction := (← attempt (char '.' *> digits Char.isDigit)).getD []
  let power ← attempt exponent
  check (!fraction.isEmpty || power.isSome)
  let e := power.getD 0 - fraction.length
  check (negative || e < -100000 || !overflows (numeral 10 (whole ++ fraction)) e)

def special : Reader Unit := do
  let _ ← sign
  word ['i', 'n', 'f'] <|> word ['n', 'a', 'n']

/-- A number of exactly `n` digits. -/
def fixed : Nat → (value : Nat) → Reader Nat
  | 0, value => pure value
  | n + 1, value => do
    let c ← one Char.isDigit
    fixed n (value * 10 + (c.toNat - 48))

def isLeapYear (year : Nat) : Bool :=
  year % 4 == 0 && (year % 100 ≠ 0 || year % 400 == 0)

def daysIn (year month : Nat) : Nat :=
  if month == 2 then (if isLeapYear year then 29 else 28)
  else if month == 4 || month == 6 || month == 9 || month == 11 then 30
  else 31

def date : Reader Unit := do
  let year ← fixed 4 0
  char '-'
  let month ← fixed 2 0
  char '-'
  let day ← fixed 2 0
  check (1 ≤ month && month ≤ 12 && 1 ≤ day && day ≤ daysIn year month)

/-- A time; a minute may have a leap second. -/
def time : Reader Unit := do
  let hour ← fixed 2 0
  char ':'
  let minute ← fixed 2 0
  char ':'
  let second ← fixed 2 0
  check (hour < 24 && minute < 60 && second ≤ 60)
  let _ ← attempt (char '.' *> do
    let _ ← one Char.isDigit
    takeWhile Char.isDigit)

def zone : Reader Unit :=
  char 'Z' <|> char 'z' <|> do
    let _ ← one (fun c => c == '+' || c == '-')
    let hour ← fixed 2 0
    char ':'
    let minute ← fixed 2 0
    check (hour < 24 && minute < 60)

def moment : Reader Unit :=
  (do
    date
    let _ ← attempt (do
      let _ ← one (fun c => c == 'T' || c == 't' || c == ' ')
      time
      attempt zone)) <|>
  time

/-- A number or a date. -/
def scalar : Reader Unit :=
  moment <|> float <|> special <|> integer

end GoStub.Toml
