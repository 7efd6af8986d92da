import GoStub.Syntax.Pattern

/-! The patterns of literals, escapes and comments. -/

namespace GoStub.Syntax.Pattern

/-- Digits, with single underscores between them. -/
def digits (isDigit : Char → Bool) : Pattern :=
  seq (one isDigit) (many (seq (optional (oneOf "_")) (one isDigit)))

def isHexDigit (c : Char) : Bool :=
  c.isDigit || ('a' ≤ c && c ≤ 'f') || ('A' ≤ c && c ≤ 'F')

def isOctalDigit (c : Char) : Bool :=
  '0' ≤ c && c ≤ '7'

def decimalDigits : Pattern :=
  digits Char.isDigit

def hexDigits : Pattern :=
  digits isHexDigit

/-- So many hexadecimal digits. -/
def hexCode (n : Nat) : Pattern :=
  sequence (List.replicate n (one isHexDigit))

/-- A zero, a letter for the base, and digits. -/
def based (letters : String) (digits : Pattern) : Pattern :=
  sequence [oneOf "0", oneOf letters, optional (oneOf "_"), digits]

def octal : Pattern :=
  sequence [oneOf "0", optional (oneOf "oO"), optional (oneOf "_"), digits isOctalDigit]

def decimal : Pattern :=
  either (oneOf "0")
    (seq (oneOf "123456789") (optional (seq (optional (oneOf "_")) decimalDigits)))

def int : Pattern :=
  choice [based "bB" (digits (fun c => c == '0' || c == '1')), decimal, octal,
    based "xX" hexDigits]

def exponent (letters : String) : Pattern :=
  sequence [oneOf letters, optional (oneOf "+-"), decimalDigits]

def decimalFloat : Pattern :=
  choice [
    sequence [decimalDigits, oneOf ".", optional decimalDigits, optional (exponent "eE")],
    sequence [decimalDigits, exponent "eE"],
    sequence [oneOf ".", decimalDigits, optional (exponent "eE")]]

def hexMantissa : Pattern :=
  choice [
    sequence [optional (oneOf "_"), hexDigits, oneOf ".", optional hexDigits],
    sequence [optional (oneOf "_"), hexDigits],
    sequence [oneOf ".", hexDigits]]

def hexFloat : Pattern :=
  sequence [oneOf "0", oneOf "xX", hexMantissa, exponent "pP"]

def float : Pattern :=
  either decimalFloat hexFloat

def imaginary : Pattern :=
  seq (choice [decimalDigits, int, float]) (oneOf "i")

def rune : Pattern :=
  let octalDigit := one isOctalDigit
  let code := choice [seq (oneOf "x") (hexCode 2), sequence [octalDigit, octalDigit, octalDigit],
    seq (oneOf "u") (hexCode 4), seq (oneOf "U") (hexCode 8), oneOf "abfnrtv\\'\""]
  sequence [oneOf "'", either (noneOf "'\\") (seq (oneOf "\\") code), oneOf "'"]

/-- An escape in a string. -/
def escape : Pattern :=
  let digit := one Char.isDigit
  seq (oneOf "\\")
    (choice [noneOf "xuU", sequence [digit, digit, optional digit],
      sequence [oneOf "x", hexCode 2, many (one isHexDigit)],
      seq (oneOf "u") (hexCode 4), seq (oneOf "U") (hexCode 8)])

/-- A comment up to the end of its line, or up to the end mark. -/
def comment : Pattern :=
  let stars := oneOrMore (oneOf "*")
  let text := many (noneOf "*")
  either (sequence [oneOf "/", oneOf "/", many (noneOf "\n")])
    (sequence [oneOf "/", oneOf "*", text, stars,
      many (sequence [noneOf "/*", text, stars]), oneOf "/"])

end GoStub.Syntax.Pattern
