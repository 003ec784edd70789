import ResourceTrace.Unicode.Property

set_option autoImplicit false

namespace ResourceTrace.Text

def isBlank (c : Char) : Bool := Unicode.Property.whiteSpace.contains c

def trim (cs : List Char) : List Char :=
  ((cs.dropWhile isBlank).reverse.dropWhile isBlank).reverse

end ResourceTrace.Text
