import Mathlib.Data.List.Infix

namespace VendingSystem

/-!
# Texts

The operations on texts that the programs use: trimming, ASCII lower case,
containment, and the length in UTF-8.
-/

/-- The code points that a trim removes. -/
def isTrimmed (char : Char) : Bool :=
  let code := char.toNat
  (9 ≤ code && code ≤ 13) || code = 0x20 || code = 0x85 || code = 0xA0 ||
    code = 0x1680 || (0x2000 ≤ code && code ≤ 0x200A) || code = 0x2028 ||
    code = 0x2029 || code = 0x202F || code = 0x205F || code = 0x3000

def trimStart (text : String) : List Char :=
  text.toList.dropWhile isTrimmed

def trim (text : String) : String :=
  String.ofList ((trimStart text).reverse.dropWhile isTrimmed).reverse

/-- Nothing is left of the text after a trim. -/
def isBlank (text : String) : Bool :=
  (trimStart text).isEmpty

/-- Lower case for the ASCII letters alone. -/
def toAsciiLowercase (text : String) : List Char :=
  text.toList.map Char.toLower

def containsText (text : List Char) (needle : String) : Bool :=
  text.tails.any fun rest => needle.toList.isPrefixOf rest

end VendingSystem
