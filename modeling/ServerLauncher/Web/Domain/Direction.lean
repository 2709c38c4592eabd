import ServerLauncher.Text.Mark

/-!
# Direction of labels

Letters of some scripts are written from right to left. A name with such a letter can be read in two
ways unless each of its labels keeps to rules about what stands where : that is `isOrdered`. The
direction of a character is a class (`BidiClass`), known here for the characters that a domain name
can have.
-/

namespace ServerLauncher.Domain

/-! ## The tables -/

/-- How a character takes part in the direction of a text. -/
inductive BidiClass where
  | left
  | right
  | arabicLetter
  | arabicNumber
  | europeanNumber
  | separator
  | terminator
  | commonSeparator
  | neutral
  | boundary
  | nonspacing
  deriving Repr, DecidableEq

/-- Hebrew letters and the like. -/
def rightText : String :=
  "5be 5c0 5c3 5c6 5d0-5f4 7c0-7ea 7f4-7f5 7fa 7fe-815 81a 824 828 830-858 85e 10800-1091b
   10920-10a00 10a10-10a35 10a40-10ae4 10aeb-10b35 10b40-10cff 10d40-10d4f 10d6f-10d8f
   10e80-10ea9 10ead-10eb1 10f00-10f27 10f70-10f81 10f86-10ff6 1e800-1e8cf 1e922-1e943
   1e94b-1e95f"

/-- Arabic letters and the like. -/
def arabicLetterText : String :=
  "608 60b 60d 61b-64a 66d-66f 671-6d5 6e5-6e6 6ee-6ef 6fa-710 712-72f 74d-7a5 7b1 860-88f
   8a0-8c9 fbb2-fbc2 fe73 10d00-10d23 10ec2-10ec7 10f30-10f45 10f51-10f59 1ec71-1ed3d"

/-- Arabic digits. -/
def arabicNumberText : String :=
  "660-669 66b-66c 10d30-10d39 10e60-10e7e"

/-- Digits as in Europe. -/
def europeanNumberText : String :=
  "30-39 6f0-6f9 102e1-102fb"

/-- The signs of numbers. -/
def separatorText : String :=
  "2b 2d 2212"

/-- Signs in front of numbers or behind them, such as those of currencies. -/
def terminatorText : String :=
  "23-25 a2-a5 b0-b1 58f 609-60a 66a 9f2-9f3 9fb af1 bf9 e3f 17db 2030-2032 20a0-20c1 212e 2213
   a838-a839 11fdd-11fe0 1e2ff"

/-- Signs between numbers. -/
def commonSeparatorText : String :=
  "2c 2e-2f 3a 60c 2044"

/-- Signs and symbols. -/
def neutralText : String :=
  "21-22 26-2a 3b-60 7b-7e a1 a6-ae b6-d7 f7 2b9-2ba 2c2-2cf 2d2-2ed 2ef-2ff 375 3f6 58a-58e
   606-607 60e-60f 6de 6e9 7f6-7f9 bf3-bf8 bfa c78-c7e f3a-f3d 1390-1399 1400 169b-169c
   17f0-180a 1940-1945 19de-19ff 2010-2027 2035-2043 2045-205e 2104-2129 213a-214d 218a-2211
   2214-2335 237b-2394 2396-26ab 26ad-27ff 2900-2bff 2ce5-2cea 2cf9-2cff 2e00-3004 3008-3020
   3030 3037 303d-303f 30a0 30fb 31c0-31e5 4dc0-4dff a490-a4c6 a60d-a60f a673 a67e-a67f
   a700-a721 a788 a828-a82b a874-a877 ab6a-ab6b fbc3-fdff fe45-fe46 10101 10140-1018c
   10190-101a0 1091f 10b39-10b3f 10d6e 10ed0-10ed8 11052-11065 11660-1166c 11fd5-11fdc
   11fe1-11ff1 16fe2 1cc00-1cef0 1d1e9-1d241 1d245 1d300-1d356 1eef0-1f12f 1f16d-1f16f 1f1ad
   1f260-1fbfa"

/-- Invisible characters. -/
def boundaryText : String :=
  "0-8 e-1b 7f 200c-200d"

/-- The nonspacing marks that count as letters from left to right. -/
def leftMarkText : String :=
  "cbf cc6 11a07-11a08 11c3f"

/-- The classes with their characters, apart from letters from left to right and marks. -/
def bidiTables : List (BidiClass × CodeTable Unit) :=
  [(.right, .set rightText), (.arabicLetter, .set arabicLetterText),
   (.arabicNumber, .set arabicNumberText), (.europeanNumber, .set europeanNumberText),
   (.separator, .set separatorText), (.terminator, .set terminatorText),
   (.commonSeparator, .set commonSeparatorText), (.neutral, .set neutralText),
   (.boundary, .set boundaryText)]

/-- The nonspacing marks that count as letters from left to right, as a table. -/
def leftMarks : CodeTable Unit :=
  .set leftMarkText

/-- The class of a character. -/
def bidiClass (c : Char) : BidiClass :=
  if nonspacingMarks.contains c then if leftMarks.contains c then .left else .nonspacing
  else ((bidiTables.find? fun t => t.2.contains c).map Prod.fst).getD .left

/-! ## The rules -/

namespace BidiClass

/-- A class of letters from right to left and of their digits. -/
def isRightward (k : BidiClass) : Bool :=
  [right, arabicLetter, arabicNumber].contains k

/-- What every label can have. -/
def isCommon (k : BidiClass) : Bool :=
  [europeanNumber, separator, commonSeparator, terminator, neutral, boundary, nonspacing].contains k

/-- What a label from left to right ends with, in front of marks. -/
def endsLeft (k : BidiClass) : Bool :=
  [left, europeanNumber].contains k

/-- What a label from right to left ends with, in front of marks. -/
def endsRight (k : BidiClass) : Bool :=
  [right, arabicLetter, europeanNumber, arabicNumber].contains k

end BidiClass

/-- A label keeps to the rules : its first character is a letter and says in which direction all of
it is written, and digits of only one kind stand in a label from right to left. -/
def isOrderedLabel (ks : List BidiClass) : Bool :=
  let last := (ks.reverse.dropWhile (· == .nonspacing)).head?
  match ks with
  | [] => true
  | .left :: _ => (ks.all fun k => k == .left || k.isCommon) && last.any BidiClass.endsLeft
  | k :: _ =>
    (k == .right || k == .arabicLetter) && (ks.all fun k => k.isRightward || k.isCommon) &&
      last.any BidiClass.endsRight &&
      !(ks.contains .arabicNumber && ks.contains .europeanNumber)

/-- The labels of a name keep to the rules, if any of them has something written from right to
left. -/
def isOrdered (labels : List (List Char)) : Bool :=
  let classes := labels.map fun l => l.map bidiClass
  !(classes.any fun ks => ks.any BidiClass.isRightward) || classes.all isOrderedLabel

end ServerLauncher.Domain
