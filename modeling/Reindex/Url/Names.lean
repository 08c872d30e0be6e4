import Reindex.Url.Host

/-!
# A mapping of names

`Names.common` spells names in ASCII with a small part of the tables of the standard: the capitals
of Latin, Greek and Cyrillic, full-width forms and the characters that are dropped.  All others it
takes as they are.  A label in Punycode has to be one that it would have spelled.
-/

namespace Reindex.Url.Names

/-- The characters that one character of a name is compared as.  Full stops of other scripts
separate labels too, the full-width forms of ASCII are read as ASCII, soft hyphens and zero-width
spaces are dropped, and capitals of the first alphabets become small letters. -/
def fold (c : Char) : List Char :=
  let n := c.toNat
  if n = 0xAD || n = 0x200B then []
  else if n = 0x3002 || n = 0xFF61 then ['.']
  else if 0xFF01 ≤ n && n ≤ 0xFF5E then [(Char.ofNat (n - 0xFEE0)).toLower]
  else if (0xC0 ≤ n && n ≤ 0xDE && n != 0xD7) || (0x391 ≤ n && n ≤ 0x3A9) ||
      (0x410 ≤ n && n ≤ 0x42F) then [Char.ofNat (n + 0x20)]
  else if 0x400 ≤ n && n ≤ 0x40F then [Char.ofNat (n + 0x50)]
  else [c.toLower]

/-- A character that a label may hold besides ASCII: no control and no blank, and one that folding
leaves alone. -/
def isLabelChar (c : Char) : Bool := 0xA0 < c.toNat && !Text.isBlank c && fold c == [c]

/-- Is a label spelled in ASCII already? -/
def isAscii (label : List Char) : Bool := label.all (·.toNat < 0x80)

/-- May these characters be spelled in Punycode? -/
def isSpellable (label : List Char) : Bool :=
  !isAscii label && label.all fun c => c.toNat < 0x80 || isLabelChar c

/-- What a label in Punycode starts with. -/
def mark : List Char := "xn--".toList

/-- A folded label in ASCII. -/
def spell? (label : List Char) : Option (List Char) :=
  if isAscii label then
    if mark.isPrefixOf label then do
      let text ← Text.Punycode.decode (label.drop mark.length)
      -- Only the spelling of the text itself is a label.
      if isSpellable text && Text.Punycode.encode text == label.drop mark.length then some label
      else none
    else some label
  else if isSpellable label then some (mark ++ Text.Punycode.encode label)
  else none

/-- The mapping of names that hold common characters. -/
def common : Names := fun name => do
  let labels ← (splitOn '.' (name.toList.flatMap fold)).mapM spell?
  some (String.ofList (['.'].intercalate labels))

end Reindex.Url.Names
