import MailSort.Text

/-! # White space

The white space of texts is the characters with the property `White_Space`.  It is left
out at both ends of the entries of a list.
-/

namespace MailSort

namespace Text

def isBlank (c : Char) : Bool :=
  let code := c.toNat
  (0x9 ≤ code && code ≤ 0xd) || code = 0x20 || code = 0x85 || code = 0xa0 || code = 0x1680 ||
    (0x2000 ≤ code && code ≤ 0x200a) || code = 0x2028 || code = 0x2029 || code = 0x202f ||
    code = 0x205f || code = 0x3000

def trimStart (text : Text) : Text :=
  text.dropWhile isBlank

def trim (text : Text) : Text :=
  (trimStart (trimStart text).reverse).reverse

/-- The entries of a text between separators, of which there is always one more than
    separators. -/
def splitAtEach (separator : Char) : Text → List Text
  | [] => [[]]
  | c :: rest =>
    if c = separator then [] :: splitAtEach separator rest
    else
      match splitAtEach separator rest with
      | entry :: entries => (c :: entry) :: entries
      | [] => [[c]]

end Text

end MailSort
