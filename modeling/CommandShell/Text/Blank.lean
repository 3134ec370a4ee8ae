/-
# Blank characters and trimming

Two notions of blank meet in a command shell.  Words of a command line are separated by the
space and the tab alone (`isSeparator`); everything else that is called blank -- an entry of a
search list, the configured history file, the part of a line before the word that is completed --
uses the whole Unicode property White_Space (`isBlank`).  A separator is blank, and no letter,
digit or quote is.
-/
namespace CommandShell.Text

/-! ## 1. The two classes -/

/-- The characters that separate words of a command line. -/
def isSeparator (c : Char) : Bool := c == ' ' || c == '\t'

/-- The Unicode property White_Space. -/
def isBlank (c : Char) : Bool :=
  let n := c.toNat
  (0x09 ≤ n && n ≤ 0x0D) || n == 0x20 || n == 0x85 || n == 0xA0 || n == 0x1680
    || (0x2000 ≤ n && n ≤ 0x200A) || n == 0x2028 || n == 0x2029 || n == 0x202F || n == 0x205F
    || n == 0x3000

/-- Every separator is blank. -/
theorem isBlank_of_isSeparator {c : Char} (h : isSeparator c = true) : isBlank c = true := by
  simp only [isSeparator, Bool.or_eq_true, beq_iff_eq] at h
  rcases h with rfl | rfl <;> decide

/-! ## 2. Trimming -/

/-- The text without the blanks at its start. -/
def trimStart (s : String) : String := String.ofList (s.toList.dropWhile isBlank)

/-- The text without the blanks at its end. -/
def trimEnd (s : String) : String :=
  String.ofList (s.toList.reverse.dropWhile isBlank).reverse

/-- The text without the blanks at either end. -/
def trim (s : String) : String := trimEnd (trimStart s)

end CommandShell.Text
