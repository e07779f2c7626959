import Tabstave.Files.NamePattern.Class.Basic

/-!
# Members of numbers

The members of whole numbers, of truth values and of nothing. Each has a name, a kind,
the words that describe it and, for a method, what it takes.
-/

namespace Tabstave.NamePattern

/-- The members of whole numbers. -/
def numberMembers : List Member := [
  ⟨"__new__", .constructor, some ("Create and return a new object.  See help(type) for " ++
    "accurate signature."), some "($type, *args, **kwargs)"⟩,
  ⟨"__repr__", .slot, some "Return repr(self).", some "($self, /)"⟩,
  ⟨"__hash__", .slot, some "Return hash(self).", some "($self, /)"⟩,
  ⟨"__getattribute__", .slot, some "Return getattr(self, name).", some "($self, name, /)"⟩,
  ⟨"__lt__", .slot, some "Return self<value.", some "($self, value, /)"⟩,
  ⟨"__le__", .slot, some "Return self<=value.", some "($self, value, /)"⟩,
  ⟨"__eq__", .slot, some "Return self==value.", some "($self, value, /)"⟩,
  ⟨"__ne__", .slot, some "Return self!=value.", some "($self, value, /)"⟩,
  ⟨"__gt__", .slot, some "Return self>value.", some "($self, value, /)"⟩,
  ⟨"__ge__", .slot, some "Return self>=value.", some "($self, value, /)"⟩,
  ⟨"__add__", .slot, some "Return self+value.", some "($self, value, /)"⟩,
  ⟨"__radd__", .slot, some "Return value+self.", some "($self, value, /)"⟩,
  ⟨"__sub__", .slot, some "Return self-value.", some "($self, value, /)"⟩,
  ⟨"__rsub__", .slot, some "Return value-self.", some "($self, value, /)"⟩,
  ⟨"__mul__", .slot, some "Return self*value.", some "($self, value, /)"⟩,
  ⟨"__rmul__", .slot, some "Return value*self.", some "($self, value, /)"⟩,
  ⟨"__mod__", .slot, some "Return self%value.", some "($self, value, /)"⟩,
  ⟨"__rmod__", .slot, some "Return value%self.", some "($self, value, /)"⟩,
  ⟨"__divmod__", .slot, some "Return divmod(self, value).", some "($self, value, /)"⟩,
  ⟨"__rdivmod__", .slot, some "Return divmod(value, self).", some "($self, value, /)"⟩,
  ⟨"__pow__", .slot, some "Return pow(self, value, mod).", some "($self, value, mod=None, /)"⟩,
  ⟨"__rpow__", .slot, some "Return pow(value, self, mod).", some "($self, value, mod=None, /)"⟩,
  ⟨"__neg__", .slot, some "-self", some "($self, /)"⟩,
  ⟨"__pos__", .slot, some "+self", some "($self, /)"⟩,
  ⟨"__abs__", .slot, some "abs(self)", some "($self, /)"⟩,
  ⟨"__bool__", .slot, some "True if self else False", some "($self, /)"⟩,
  ⟨"__invert__", .slot, some "~self", some "($self, /)"⟩,
  ⟨"__lshift__", .slot, some "Return self<<value.", some "($self, value, /)"⟩,
  ⟨"__rlshift__", .slot, some "Return value<<self.", some "($self, value, /)"⟩,
  ⟨"__rshift__", .slot, some "Return self>>value.", some "($self, value, /)"⟩,
  ⟨"__rrshift__", .slot, some "Return value>>self.", some "($self, value, /)"⟩,
  ⟨"__and__", .slot, some "Return self&value.", some "($self, value, /)"⟩,
  ⟨"__rand__", .slot, some "Return value&self.", some "($self, value, /)"⟩,
  ⟨"__xor__", .slot, some "Return self^value.", some "($self, value, /)"⟩,
  ⟨"__rxor__", .slot, some "Return value^self.", some "($self, value, /)"⟩,
  ⟨"__or__", .slot, some "Return self|value.", some "($self, value, /)"⟩,
  ⟨"__ror__", .slot, some "Return value|self.", some "($self, value, /)"⟩,
  ⟨"__int__", .slot, some "int(self)", some "($self, /)"⟩,
  ⟨"__float__", .slot, some "float(self)", some "($self, /)"⟩,
  ⟨"__floordiv__", .slot, some "Return self//value.", some "($self, value, /)"⟩,
  ⟨"__rfloordiv__", .slot, some "Return value//self.", some "($self, value, /)"⟩,
  ⟨"__truediv__", .slot, some "Return self/value.", some "($self, value, /)"⟩,
  ⟨"__rtruediv__", .slot, some "Return value/self.", some "($self, value, /)"⟩,
  ⟨"__index__", .slot, some ("Return self converted to an integer, if self is suitable for " ++
    "use as an index into a list."), some "($self, /)"⟩,
  ⟨"conjugate", .method, some "Returns self, the complex conjugate of any int.", none⟩,
  ⟨"bit_length", .method, some ("Number of bits necessary to represent self in binary.\n\n" ++
    ">>> bin(37)\n'0b100101'\n>>> (37).bit_length()\n6"), some "($self, /)"⟩,
  ⟨"bit_count", .method, some ("Number of ones in the binary representation of the absolute " ++
    "value of self.\n\nAlso known as the population count.\n\n>>> bin(13)\n'0b1101'\n>>> " ++
    "(13).bit_count()\n3"), some "($self, /)"⟩,
  ⟨"to_bytes", .method, some ("Return an array of bytes representing an integer.\n\n  " ++
    "length\n    Length of bytes object to use.  An OverflowError is raised if the\n    " ++
    "integer is not representable with the given number of bytes.  Default\n    is length " ++
    "1.\n  byteorder\n    The byte order used to represent the integer.  If byteorder is " ++
    "'big',\n    the most significant byte is at the beginning of the byte array.  If\n    " ++
    "byteorder is 'little', the most significant byte is at the end of the\n    byte " ++
    "array.  To request the native byte order of the host system, use\n    `sys.byteorder' " ++
    "as the byte order value.  Default is to use 'big'.\n  signed\n    Determines whether " ++
    "two's complement is used to represent the integer.\n    If signed is False and a " ++
    "negative integer is given, an OverflowError\n    is raised."),
    some "($self, /, length=1, byteorder='big', *, signed=False)"⟩,
  ⟨"from_bytes", .classMethod, some ("Return the integer represented by the given array of " ++
    "bytes.\n\n  bytes\n    Holds the array of bytes to convert.  The argument must " ++
    "either\n    support the buffer protocol or be an iterable object producing bytes.\n    " ++
    "Bytes and bytearray are examples of built-in objects that support the\n    buffer " ++
    "protocol.\n  byteorder\n    The byte order used to represent the integer.  If " ++
    "byteorder is 'big',\n    the most significant byte is at the beginning of the byte " ++
    "array.  If\n    byteorder is 'little', the most significant byte is at the end of " ++
    "the\n    byte array.  To request the native byte order of the host system, use\n    " ++
    "`sys.byteorder' as the byte order value.  Default is to use 'big'.\n  signed\n    " ++
    "Indicates whether two's complement is used to represent the integer."),
    some "($type, /, bytes, byteorder='big', *, signed=False)"⟩,
  ⟨"as_integer_ratio", .method, some ("Return integer ratio.\n\nReturn a pair of integers, " ++
    "whose ratio is exactly equal to the original int\nand with a positive denominator.\n\n" ++
    ">>> (10).as_integer_ratio()\n(10, 1)\n>>> (-10).as_integer_ratio()\n(-10, 1)\n>>> " ++
    "(0).as_integer_ratio()\n(0, 1)"), some "($self, /)"⟩,
  ⟨"__trunc__", .method, some "Truncating an Integral returns itself.", none⟩,
  ⟨"__floor__", .method, some "Flooring an Integral returns itself.", none⟩,
  ⟨"__ceil__", .method, some "Ceiling of an Integral returns itself.", none⟩,
  ⟨"__round__", .method, some ("Rounding an Integral returns itself.\n\nRounding with an " ++
    "ndigits argument also returns an integer."), some "($self, ndigits=<unrepresentable>, /)"⟩,
  ⟨"__getnewargs__", .method, none, some "($self, /)"⟩,
  ⟨"__format__", .method, none, some "($self, format_spec, /)"⟩,
  ⟨"__sizeof__", .method, some "Returns size in memory, in bytes.", some "($self, /)"⟩,
  ⟨"real", .attribute, some "the real part of a complex number", none⟩,
  ⟨"imag", .attribute, some "the imaginary part of a complex number", none⟩,
  ⟨"numerator", .attribute, some "the numerator of a rational number in lowest terms", none⟩,
  ⟨"denominator", .attribute, some "the denominator of a rational number in lowest terms", none⟩,
  ⟨"__doc__", .text, some ("int([x]) -> integer\nint(x, base=10) -> integer\n\nConvert a " ++
    "number or string to an integer, or return 0 if no arguments\nare given.  If x is a " ++
    "number, return x.__int__().  For floating point\nnumbers, this truncates towards " ++
    "zero.\n\nIf x is not a number or if base is given, then x must be a string,\nbytes, or " ++
    "bytearray instance representing an integer literal in the\ngiven base.  The literal " ++
    "can be preceded by '+' or '-' and be surrounded\nby whitespace.  The base defaults to " ++
    "10.  Valid bases are 0 and 2-36.\nBase 0 means to interpret the base from the string " ++
    "as an integer literal.\n>>> int('0b100', base=0)\n4"), none⟩]

/-- The class of whole numbers. -/
def numberClass : ClassInfo where
  name := "int"
  parent := some .thing
  size := 24
  itemSize := 4
  flags := 21501184
  members := numberMembers

/-- The members of truth values. -/
def truthMembers : List Member := [
  ⟨"__new__", .constructor, some ("Create and return a new object.  See help(type) for " ++
    "accurate signature."), some "($type, *args, **kwargs)"⟩,
  ⟨"__repr__", .slot, some "Return repr(self).", some "($self, /)"⟩,
  ⟨"__and__", .slot, some "Return self&value.", some "($self, value, /)"⟩,
  ⟨"__rand__", .slot, some "Return value&self.", some "($self, value, /)"⟩,
  ⟨"__xor__", .slot, some "Return self^value.", some "($self, value, /)"⟩,
  ⟨"__rxor__", .slot, some "Return value^self.", some "($self, value, /)"⟩,
  ⟨"__or__", .slot, some "Return self|value.", some "($self, value, /)"⟩,
  ⟨"__ror__", .slot, some "Return value|self.", some "($self, value, /)"⟩,
  ⟨"__doc__", .text, some ("bool(x) -> bool\n\nReturns True when the argument x is true, " ++
    "False otherwise.\nThe builtins True and False are the only two instances of the class " ++
    "bool.\nThe class bool is a subclass of the class int, and cannot be subclassed."), none⟩]

/-- The class of truth values. -/
def truthClass : ClassInfo where
  name := "bool"
  parent := some .number
  size := 32
  itemSize := 4
  flags := 21500160
  members := truthMembers

/-- The members of nothing. -/
def nothingMembers : List Member := [
  ⟨"__new__", .constructor, some ("Create and return a new object.  See help(type) for " ++
    "accurate signature."), some "($type, *args, **kwargs)"⟩,
  ⟨"__repr__", .slot, some "Return repr(self).", some "($self, /)"⟩,
  ⟨"__bool__", .slot, some "True if self else False", some "($self, /)"⟩,
  ⟨"__doc__", .absent, none, none⟩]

/-- The class of nothing. -/
def nothingClass : ClassInfo where
  name := "NoneType"
  parent := some .thing
  size := 16
  flags := 528640
  members := nothingMembers

end Tabstave.NamePattern
