import Lexis.Text.Categories
import Lexis.Text.Properties

/-!
# Character classes

Word characters, digits, white space and letters, by the Unicode properties that define them: word
characters are the alphabetic ones, marks, decimal digits, connecting punctuation and joiners. Below
code point 128 a class is its short list of intervals; above, it is taken from the tables.
-/

namespace Lexis.Text

def asciiWordRanges : List (Nat × Nat) :=
  [(0x30, 0x39), (0x41, 0x5A), (0x5F, 0x5F), (0x61, 0x7A)]

def asciiLetterRanges : List (Nat × Nat) :=
  [(0x41, 0x5A), (0x61, 0x7A)]

def asciiDigitRanges : List (Nat × Nat) :=
  [(0x30, 0x39)]

def asciiSpaceRanges : List (Nat × Nat) :=
  [(0x09, 0x0D), (0x20, 0x20)]

def digitRanges : List (Nat × Nat) :=
  categoryRanges ["Nd"]

/-- Digits, numerals and other numbers. -/
def numberRanges : List (Nat × Nat) :=
  categoryRanges ["Nd", "Nl", "No"]

def alphabeticRanges : List (Nat × Nat) :=
  categoryRanges ["Lu", "Ll", "Lt", "Lm", "Lo", "Nl"] ++ otherAlphabetic

def wordRanges : List (Nat × Nat) :=
  alphabeticRanges ++ categoryRanges ["Mn", "Mc", "Me", "Nd", "Pc"] ++ joinControl

/-- A character of a class given by its part below code point 128 and by all of it. -/
def inClass (ascii wide : List (Nat × Nat)) (c : Char) : Bool :=
  if c.toNat < 128 then inRanges ascii c.toNat else inRanges wide c.toNat

def isSpace (c : Char) : Bool :=
  inClass asciiSpaceRanges whiteSpace c

def isDigit (c : Char) : Bool :=
  inClass asciiDigitRanges digitRanges c

def isWord (c : Char) : Bool :=
  inClass asciiWordRanges wordRanges c

def isAlphabetic (c : Char) : Bool :=
  inClass asciiLetterRanges alphabeticRanges c

def isNumber (c : Char) : Bool :=
  inClass asciiDigitRanges numberRanges c

end Lexis.Text
