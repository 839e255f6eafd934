/-
This file says which characters are blank and trims them from the ends of a text. The set is the
Unicode property `White_Space`, so a no-break space and the line separator count as well as the
blank and the tab.
-/

namespace ApplicationLedger.Text

/-- The characters with the Unicode property `White_Space`. -/
def isBlank (c : Char) : Bool :=
  (0x9 ≤ c.toNat && c.toNat ≤ 0xd) || c.toNat == 0x20 || c.toNat == 0x85 || c.toNat == 0xa0 ||
    c.toNat == 0x1680 || (0x2000 ≤ c.toNat && c.toNat ≤ 0x200a) || c.toNat == 0x2028 ||
    c.toNat == 0x2029 || c.toNat == 0x202f || c.toNat == 0x205f || c.toNat == 0x3000

/-- The text without the blank characters at its start. -/
def trimStart (text : List Char) : List Char :=
  text.dropWhile isBlank

/-- The text without the blank characters at both ends. -/
def trim (text : String) : String :=
  String.ofList (trimStart (trimStart text.toList).reverse).reverse

end ApplicationLedger.Text
