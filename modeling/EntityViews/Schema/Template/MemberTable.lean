/-!
What texts, classes and the members of both hold under a name, as far as templates can reach it.
-/

namespace EntityViews

/-- How a class holds a member. -/
inductive MemberForm
  /-- A function of the instances. -/
  | method
  /-- A function of the instances that an operator stands for. -/
  | slot
  /-- A value that is worked out for each instance. -/
  | computed
  /-- A value that each instance holds. -/
  | stored
  /-- A function of the class. -/
  | ofClass
  /-- A function that belongs to the class alone. -/
  | fixed
  | text
  | nothing
deriving DecidableEq

/-- A member: its class, how that holds it, its name, its signature, and its description. -/
structure Member where
  owner : String
  form : MemberForm
  name : String
  signature : Option String
  description : Option String
deriving DecidableEq

/-- A class: its name, its signature, the sizes of its instances, and its description. -/
structure MemberClass where
  name : String
  signature : Option String
  /-- The fixed and the repeated size, the flags, and the places of references and further members. -/
  sizes : List Int
  description : Option String

def memberClasses : List MemberClass := [
  ⟨"object", (some "()"), [16, 0, 529664, 0, 0],
    (some ("The base class of the class hierarchy.\n\nWhen called, it accepts no arguments and returns a new " ++
    "featureless\ninstance that has no instance attributes and cannot be given any.\n"))⟩,
  ⟨"str", none, [80, 0, 273159424, 0, 0],
    (some ("str(object='') -> str\nstr(bytes_or_buffer[, encoding[, errors]]) -> str\n\nCreate a new string " ++
    "object from the given object. If encoding or\nerrors is specified, then the object must expose a data " ++
    "buffer\nthat will be decoded using the given encoding and error handler.\nOtherwise, returns the result " ++
    "of object.__str__() (if defined)\nor repr(object).\nencoding defaults to sys.getdefaultencoding().\n" ++
    "errors defaults to 'strict'."))⟩,
  ⟨"type", none, [904, 40, 2148031744, 368, 264],
    (some "type(object) -> the object's type\ntype(name, bases, dict, **kwds) -> a new type")⟩,
  ⟨"tuple", (some "(iterable=(), /)"), [24, 8, 71849248, 0, 0],
    (some ("Built-in immutable sequence.\n\nIf no argument is given, the constructor returns an empty tuple.\n" ++
    "If iterable is specified the tuple is initialized from iterable's items.\n\nIf the argument is a tuple, " ++
    "the return value is the same object."))⟩,
  ⟨"int", none, [24, 4, 21501184, 0, 0],
    (some ("int([x]) -> integer\nint(x, base=10) -> integer\n\nConvert a number or string to an integer, or " ++
    "return 0 if no arguments\nare given.  If x is a number, return x.__int__().  For floating point\n" ++
    "numbers, this truncates towards zero.\n\nIf x is not a number or if base is given, then x must be a " ++
    "string,\nbytes, or bytearray instance representing an integer literal in the\ngiven base.  The literal " ++
    "can be preceded by '+' or '-' and be surrounded\nby whitespace.  The base defaults to 10.  Valid bases " ++
    "are 0 and 2-36.\nBase 0 means to interpret the base from the string as an integer literal.\n>>> " ++
    "int('0b100', base=0)\n4"))⟩,
  ⟨"NoneType", none, [16, 0, 528640, 0, 0],
    none⟩,
  ⟨"builtin_function_or_method", none, [56, 0, 547200, 40, 0],
    none⟩,
  ⟨"method-wrapper", none, [32, 0, 20864, 0, 0],
    none⟩,
  ⟨"method_descriptor", none, [56, 0, 678272, 0, 0],
    none⟩,
  ⟨"wrapper_descriptor", none, [56, 0, 676224, 0, 0],
    none⟩,
  ⟨"getset_descriptor", none, [48, 0, 545152, 0, 0],
    none⟩,
  ⟨"member_descriptor", none, [48, 0, 545152, 0, 0],
    none⟩,
  ⟨"classmethod_descriptor", none, [56, 0, 545152, 0, 0],
    none⟩,
  ⟨"mappingproxy", none, [24, 0, 545088, 0, 0],
    none⟩]

def members : Array Member := #[
  ⟨"object", .fixed, "__new__", (some "($type, *args, **kwargs)"), (some ("Create and return a new object.  " ++
    "See help(type) for accurate signature."))⟩,
  ⟨"object", .slot, "__repr__", (some "($self, /)"), (some "Return repr(self).")⟩,
  ⟨"object", .slot, "__hash__", (some "($self, /)"), (some "Return hash(self).")⟩,
  ⟨"object", .slot, "__str__", (some "($self, /)"), (some "Return str(self).")⟩,
  ⟨"object", .slot, "__getattribute__", (some "($self, name, /)"), (some "Return getattr(self, name).")⟩,
  ⟨"object", .slot, "__setattr__", (some "($self, name, value, /)"), (some ("Implement setattr(self, name, " ++
    "value)."))⟩,
  ⟨"object", .slot, "__delattr__", (some "($self, name, /)"), (some "Implement delattr(self, name).")⟩,
  ⟨"object", .slot, "__lt__", (some "($self, value, /)"), (some "Return self<value.")⟩,
  ⟨"object", .slot, "__le__", (some "($self, value, /)"), (some "Return self<=value.")⟩,
  ⟨"object", .slot, "__eq__", (some "($self, value, /)"), (some "Return self==value.")⟩,
  ⟨"object", .slot, "__ne__", (some "($self, value, /)"), (some "Return self!=value.")⟩,
  ⟨"object", .slot, "__gt__", (some "($self, value, /)"), (some "Return self>value.")⟩,
  ⟨"object", .slot, "__ge__", (some "($self, value, /)"), (some "Return self>=value.")⟩,
  ⟨"object", .slot, "__init__", (some "($self, /, *args, **kwargs)"), (some ("Initialize self.  See " ++
    "help(type(self)) for accurate signature."))⟩,
  ⟨"object", .method, "__reduce_ex__", (some "($self, protocol, /)"), (some "Helper for pickle.")⟩,
  ⟨"object", .method, "__reduce__", (some "($self, /)"), (some "Helper for pickle.")⟩,
  ⟨"object", .method, "__getstate__", (some "($self, /)"), (some "Helper for pickle.")⟩,
  ⟨"object", .ofClass, "__subclasshook__", none, (some ("Abstract classes can override this to customize " ++
    "issubclass().\n\nThis is invoked early on by abc.ABCMeta.__subclasscheck__().\nIt should return True, " ++
    "False or NotImplemented.  If it returns\nNotImplemented, the normal algorithm is used.  Otherwise, it\n" ++
    "overrides the normal algorithm (and the outcome is cached).\n"))⟩,
  ⟨"object", .ofClass, "__init_subclass__", none, (some ("This method is called when a class is subclassed.\n" ++
    "\nThe default implementation does nothing. It may be\noverridden to extend subclasses.\n"))⟩,
  ⟨"object", .method, "__format__", (some "($self, format_spec, /)"), (some "Default object formatter.")⟩,
  ⟨"object", .method, "__sizeof__", (some "($self, /)"), (some "Size of object in memory, in bytes.")⟩,
  ⟨"object", .method, "__dir__", (some "($self, /)"), (some "Default dir() implementation.")⟩,
  ⟨"object", .computed, "__class__", none, (some "the object's class")⟩,
  ⟨"object", .text, "__doc__", none, (some ("The base class of the class hierarchy.\n\nWhen called, it accepts " ++
    "no arguments and returns a new featureless\ninstance that has no instance attributes and cannot be given " ++
    "any.\n"))⟩,
  ⟨"str", .fixed, "__new__", (some "($type, *args, **kwargs)"), (some ("Create and return a new object.  See " ++
    "help(type) for accurate signature."))⟩,
  ⟨"str", .slot, "__repr__", (some "($self, /)"), (some "Return repr(self).")⟩,
  ⟨"str", .slot, "__hash__", (some "($self, /)"), (some "Return hash(self).")⟩,
  ⟨"str", .slot, "__str__", (some "($self, /)"), (some "Return str(self).")⟩,
  ⟨"str", .slot, "__getattribute__", (some "($self, name, /)"), (some "Return getattr(self, name).")⟩,
  ⟨"str", .slot, "__lt__", (some "($self, value, /)"), (some "Return self<value.")⟩,
  ⟨"str", .slot, "__le__", (some "($self, value, /)"), (some "Return self<=value.")⟩,
  ⟨"str", .slot, "__eq__", (some "($self, value, /)"), (some "Return self==value.")⟩,
  ⟨"str", .slot, "__ne__", (some "($self, value, /)"), (some "Return self!=value.")⟩,
  ⟨"str", .slot, "__gt__", (some "($self, value, /)"), (some "Return self>value.")⟩,
  ⟨"str", .slot, "__ge__", (some "($self, value, /)"), (some "Return self>=value.")⟩,
  ⟨"str", .slot, "__iter__", (some "($self, /)"), (some "Implement iter(self).")⟩,
  ⟨"str", .slot, "__mod__", (some "($self, value, /)"), (some "Return self%value.")⟩,
  ⟨"str", .slot, "__rmod__", (some "($self, value, /)"), (some "Return value%self.")⟩,
  ⟨"str", .slot, "__len__", (some "($self, /)"), (some "Return len(self).")⟩,
  ⟨"str", .slot, "__getitem__", (some "($self, key, /)"), (some "Return self[key].")⟩,
  ⟨"str", .slot, "__add__", (some "($self, value, /)"), (some "Return self+value.")⟩,
  ⟨"str", .slot, "__mul__", (some "($self, value, /)"), (some "Return self*value.")⟩,
  ⟨"str", .slot, "__rmul__", (some "($self, value, /)"), (some "Return value*self.")⟩,
  ⟨"str", .slot, "__contains__", (some "($self, key, /)"), (some "Return key in self.")⟩,
  ⟨"str", .method, "encode", (some "($self, /, encoding='utf-8', errors='strict')"),
    (some ("Encode the string using the codec registered for encoding.\n\n  encoding\n    The encoding in " ++
    "which to encode the string.\n  errors\n    The error handling scheme to use for encoding errors.\n    " ++
    "The default is 'strict' meaning that encoding errors raise a\n    UnicodeEncodeError.  Other possible " ++
    "values are 'ignore', 'replace' and\n    'xmlcharrefreplace' as well as any other name registered with\n    " ++
    "codecs.register_error that can handle UnicodeEncodeErrors."))⟩,
  ⟨"str", .method, "replace", (some "($self, old, new, count=-1, /)"), (some ("Return a copy with all " ++
    "occurrences of substring old replaced by new.\n\n  count\n    Maximum number of occurrences to replace." ++
    "\n    -1 (the default value) means replace all occurrences.\n\nIf the optional argument count is given, " ++
    "only the first count occurrences are\nreplaced."))⟩,
  ⟨"str", .method, "split", (some "($self, /, sep=None, maxsplit=-1)"), (some ("Return a list of the " ++
    "substrings in the string, using sep as the separator string.\n\n  sep\n    The separator used to split " ++
    "the string.\n\n    When set to None (the default value), will split on any whitespace\n    character " ++
    "(including \\n \\r \\t \\f and spaces) and will discard\n    empty strings from the result.\n  maxsplit" ++
    "\n    Maximum number of splits.\n    -1 (the default value) means no limit.\n\nSplitting starts at the " ++
    "front of the string and works to the end.\n\nNote, str.split() is mainly useful for data that has been " ++
    "intentionally\ndelimited.  With natural text that includes punctuation, consider using\nthe regular " ++
    "expression module."))⟩,
  ⟨"str", .method, "rsplit", (some "($self, /, sep=None, maxsplit=-1)"), (some ("Return a list of the " ++
    "substrings in the string, using sep as the separator string.\n\n  sep\n    The separator used to split " ++
    "the string.\n\n    When set to None (the default value), will split on any whitespace\n    character " ++
    "(including \\n \\r \\t \\f and spaces) and will discard\n    empty strings from the result.\n  maxsplit" ++
    "\n    Maximum number of splits.\n    -1 (the default value) means no limit.\n\nSplitting starts at the " ++
    "end of the string and works to the front."))⟩,
  ⟨"str", .method, "join", (some "($self, iterable, /)"), (some ("Concatenate any number of strings.\n\nThe " ++
    "string whose method is called is inserted in between each given string.\nThe result is returned as a new " ++
    "string.\n\nExample: '.'.join(['ab', 'pq', 'rs']) -> 'ab.pq.rs'"))⟩,
  ⟨"str", .method, "capitalize", (some "($self, /)"), (some ("Return a capitalized version of the string.\n\n" ++
    "More specifically, make the first character have upper case and the rest lower\ncase."))⟩,
  ⟨"str", .method, "casefold", (some "($self, /)"), (some ("Return a version of the string suitable for " ++
    "caseless comparisons."))⟩,
  ⟨"str", .method, "title", (some "($self, /)"), (some ("Return a version of the string where each word is " ++
    "titlecased.\n\nMore specifically, words start with uppercased characters and all remaining\ncased " ++
    "characters have lower case."))⟩,
  ⟨"str", .method, "center", (some "($self, width, fillchar=' ', /)"), (some ("Return a centered string of " ++
    "length width.\n\nPadding is done using the specified fill character (default is a space)."))⟩,
  ⟨"str", .method, "count", none, (some ("S.count(sub[, start[, end]]) -> int\n\nReturn the number of " ++
    "non-overlapping occurrences of substring sub in\nstring S[start:end].  Optional arguments start and end " ++
    "are\ninterpreted as in slice notation."))⟩,
  ⟨"str", .method, "expandtabs", (some "($self, /, tabsize=8)"), (some ("Return a copy where all tab " ++
    "characters are expanded using spaces.\n\nIf tabsize is not given, a tab size of 8 characters is assumed."))⟩,
  ⟨"str", .method, "find", none, (some ("S.find(sub[, start[, end]]) -> int\n\nReturn the lowest index in S " ++
    "where substring sub is found,\nsuch that sub is contained within S[start:end].  Optional\narguments " ++
    "start and end are interpreted as in slice notation.\n\nReturn -1 on failure."))⟩,
  ⟨"str", .method, "partition", (some "($self, sep, /)"), (some ("Partition the string into three parts using " ++
    "the given separator.\n\nThis will search for the separator in the string.  If the separator is found,\n" ++
    "returns a 3-tuple containing the part before the separator, the separator\nitself, and the part after " ++
    "it.\n\nIf the separator is not found, returns a 3-tuple containing the original string\nand two empty " ++
    "strings."))⟩,
  ⟨"str", .method, "index", none, (some ("S.index(sub[, start[, end]]) -> int\n\nReturn the lowest index in S " ++
    "where substring sub is found,\nsuch that sub is contained within S[start:end].  Optional\narguments " ++
    "start and end are interpreted as in slice notation.\n\nRaises ValueError when the substring is not " ++
    "found."))⟩,
  ⟨"str", .method, "ljust", (some "($self, width, fillchar=' ', /)"), (some ("Return a left-justified string " ++
    "of length width.\n\nPadding is done using the specified fill character (default is a space)."))⟩,
  ⟨"str", .method, "lower", (some "($self, /)"), (some "Return a copy of the string converted to lowercase.")⟩,
  ⟨"str", .method, "lstrip", (some "($self, chars=None, /)"), (some ("Return a copy of the string with leading " ++
    "whitespace removed.\n\nIf chars is given and not None, remove characters in chars instead."))⟩,
  ⟨"str", .method, "rfind", none, (some ("S.rfind(sub[, start[, end]]) -> int\n\nReturn the highest index in S " ++
    "where substring sub is found,\nsuch that sub is contained within S[start:end].  Optional\narguments " ++
    "start and end are interpreted as in slice notation.\n\nReturn -1 on failure."))⟩,
  ⟨"str", .method, "rindex", none, (some ("S.rindex(sub[, start[, end]]) -> int\n\nReturn the highest index in " ++
    "S where substring sub is found,\nsuch that sub is contained within S[start:end].  Optional\narguments " ++
    "start and end are interpreted as in slice notation.\n\nRaises ValueError when the substring is not " ++
    "found."))⟩,
  ⟨"str", .method, "rjust", (some "($self, width, fillchar=' ', /)"), (some ("Return a right-justified string " ++
    "of length width.\n\nPadding is done using the specified fill character (default is a space)."))⟩,
  ⟨"str", .method, "rstrip", (some "($self, chars=None, /)"), (some ("Return a copy of the string with " ++
    "trailing whitespace removed.\n\nIf chars is given and not None, remove characters in chars instead."))⟩,
  ⟨"str", .method, "rpartition", (some "($self, sep, /)"), (some ("Partition the string into three parts using " ++
    "the given separator.\n\nThis will search for the separator in the string, starting at the end. If\nthe " ++
    "separator is found, returns a 3-tuple containing the part before the\nseparator, the separator itself, " ++
    "and the part after it.\n\nIf the separator is not found, returns a 3-tuple containing two empty strings" ++
    "\nand the original string."))⟩,
  ⟨"str", .method, "splitlines", (some "($self, /, keepends=False)"), (some ("Return a list of the lines in " ++
    "the string, breaking at line boundaries.\n\nLine breaks are not included in the resulting list unless " ++
    "keepends is given and\ntrue."))⟩,
  ⟨"str", .method, "strip", (some "($self, chars=None, /)"), (some ("Return a copy of the string with leading " ++
    "and trailing whitespace removed.\n\nIf chars is given and not None, remove characters in chars instead."))⟩,
  ⟨"str", .method, "swapcase", (some "($self, /)"), (some ("Convert uppercase characters to lowercase and " ++
    "lowercase characters to uppercase."))⟩,
  ⟨"str", .method, "translate", (some "($self, table, /)"), (some ("Replace each character in the string using " ++
    "the given translation table.\n\n  table\n    Translation table, which must be a mapping of Unicode " ++
    "ordinals to\n    Unicode ordinals, strings, or None.\n\nThe table must implement lookup/indexing via " ++
    "__getitem__, for instance a\ndictionary or list.  If this operation raises LookupError, the character is" ++
    "\nleft untouched.  Characters mapped to None are deleted."))⟩,
  ⟨"str", .method, "upper", (some "($self, /)"), (some "Return a copy of the string converted to uppercase.")⟩,
  ⟨"str", .method, "startswith", none, (some ("S.startswith(prefix[, start[, end]]) -> bool\n\nReturn True if " ++
    "S starts with the specified prefix, False otherwise.\nWith optional start, test S beginning at that " ++
    "position.\nWith optional end, stop comparing S at that position.\nprefix can also be a tuple of strings " ++
    "to try."))⟩,
  ⟨"str", .method, "endswith", none, (some ("S.endswith(suffix[, start[, end]]) -> bool\n\nReturn True if S " ++
    "ends with the specified suffix, False otherwise.\nWith optional start, test S beginning at that " ++
    "position.\nWith optional end, stop comparing S at that position.\nsuffix can also be a tuple of strings " ++
    "to try."))⟩,
  ⟨"str", .method, "removeprefix", (some "($self, prefix, /)"), (some ("Return a str with the given prefix " ++
    "string removed if present.\n\nIf the string starts with the prefix string, return string[len(prefix):]." ++
    "\nOtherwise, return a copy of the original string."))⟩,
  ⟨"str", .method, "removesuffix", (some "($self, suffix, /)"), (some ("Return a str with the given suffix " ++
    "string removed if present.\n\nIf the string ends with the suffix string and that suffix is not empty,\n" ++
    "return string[:-len(suffix)]. Otherwise, return a copy of the original\nstring."))⟩,
  ⟨"str", .method, "isascii", (some "($self, /)"), (some ("Return True if all characters in the string are " ++
    "ASCII, False otherwise.\n\nASCII characters have code points in the range U+0000-U+007F.\nEmpty string " ++
    "is ASCII too."))⟩,
  ⟨"str", .method, "islower", (some "($self, /)"), (some ("Return True if the string is a lowercase string, " ++
    "False otherwise.\n\nA string is lowercase if all cased characters in the string are lowercase and\nthere " ++
    "is at least one cased character in the string."))⟩,
  ⟨"str", .method, "isupper", (some "($self, /)"), (some ("Return True if the string is an uppercase string, " ++
    "False otherwise.\n\nA string is uppercase if all cased characters in the string are uppercase and\nthere " ++
    "is at least one cased character in the string."))⟩,
  ⟨"str", .method, "istitle", (some "($self, /)"), (some ("Return True if the string is a title-cased string, " ++
    "False otherwise.\n\nIn a title-cased string, upper- and title-case characters may only\nfollow uncased " ++
    "characters and lowercase characters only cased ones."))⟩,
  ⟨"str", .method, "isspace", (some "($self, /)"), (some ("Return True if the string is a whitespace string, " ++
    "False otherwise.\n\nA string is whitespace if all characters in the string are whitespace and there\nis " ++
    "at least one character in the string."))⟩,
  ⟨"str", .method, "isdecimal", (some "($self, /)"), (some ("Return True if the string is a decimal string, " ++
    "False otherwise.\n\nA string is a decimal string if all characters in the string are decimal and\nthere " ++
    "is at least one character in the string."))⟩,
  ⟨"str", .method, "isdigit", (some "($self, /)"), (some ("Return True if the string is a digit string, False " ++
    "otherwise.\n\nA string is a digit string if all characters in the string are digits and there\nis at " ++
    "least one character in the string."))⟩,
  ⟨"str", .method, "isnumeric", (some "($self, /)"), (some ("Return True if the string is a numeric string, " ++
    "False otherwise.\n\nA string is numeric if all characters in the string are numeric and there is at\n" ++
    "least one character in the string."))⟩,
  ⟨"str", .method, "isalpha", (some "($self, /)"), (some ("Return True if the string is an alphabetic string, " ++
    "False otherwise.\n\nA string is alphabetic if all characters in the string are alphabetic and there\nis " ++
    "at least one character in the string."))⟩,
  ⟨"str", .method, "isalnum", (some "($self, /)"), (some ("Return True if the string is an alpha-numeric " ++
    "string, False otherwise.\n\nA string is alpha-numeric if all characters in the string are alpha-numeric " ++
    "and\nthere is at least one character in the string."))⟩,
  ⟨"str", .method, "isidentifier", (some "($self, /)"), none⟩,
  ⟨"str", .method, "isprintable", (some "($self, /)"), (some ("Return True if the string is printable, False " ++
    "otherwise.\n\nA string is printable if all of its characters are considered printable in\nrepr() or if " ++
    "it is empty."))⟩,
  ⟨"str", .method, "zfill", (some "($self, width, /)"), (some ("Pad a numeric string with zeros on the left, " ++
    "to fill a field of the given width.\n\nThe string is never truncated."))⟩,
  ⟨"str", .method, "format", none, (some ("S.format(*args, **kwargs) -> str\n\nReturn a formatted version of " ++
    "S, using substitutions from args and kwargs.\nThe substitutions are identified by braces ('\x7b' and '" ++
    "\x7d')."))⟩,
  ⟨"str", .method, "format_map", none, (some ("S.format_map(mapping) -> str\n\nReturn a formatted version of " ++
    "S, using substitutions from mapping.\nThe substitutions are identified by braces ('\x7b' and '\x7d')."))⟩,
  ⟨"str", .method, "__format__", (some "($self, format_spec, /)"), (some ("Return a formatted version of the " ++
    "string as described by format_spec."))⟩,
  ⟨"str", .fixed, "maketrans", (some "(x, y=<unrepresentable>, z=<unrepresentable>, /)"),
    (some ("Return a translation table usable for str.translate().\n\nIf there is only one argument, it must " ++
    "be a dictionary mapping Unicode\nordinals (integers) or characters to Unicode ordinals, strings or None." ++
    "\nCharacter keys will be then converted to ordinals.\nIf there are two arguments, they must be strings " ++
    "of equal length, and\nin the resulting dictionary, each character in x will be mapped to the\ncharacter " ++
    "at the same position in y. If there is a third argument, it\nmust be a string, whose characters will be " ++
    "mapped to None in the result."))⟩,
  ⟨"str", .method, "__sizeof__", (some "($self, /)"), (some ("Return the size of the string in memory, in " ++
    "bytes."))⟩,
  ⟨"str", .method, "__getnewargs__", none, none⟩,
  ⟨"str", .text, "__doc__", none, (some ("str(object='') -> str\nstr(bytes_or_buffer[, encoding[, errors]]) -> " ++
    "str\n\nCreate a new string object from the given object. If encoding or\nerrors is specified, then the " ++
    "object must expose a data buffer\nthat will be decoded using the given encoding and error handler.\n" ++
    "Otherwise, returns the result of object.__str__() (if defined)\nor repr(object).\nencoding defaults to " ++
    "sys.getdefaultencoding().\nerrors defaults to 'strict'."))⟩,
  ⟨"type", .fixed, "__new__", (some "($type, *args, **kwargs)"), (some ("Create and return a new object.  See " ++
    "help(type) for accurate signature."))⟩,
  ⟨"type", .slot, "__repr__", (some "($self, /)"), (some "Return repr(self).")⟩,
  ⟨"type", .slot, "__call__", (some "($self, /, *args, **kwargs)"), (some "Call self as a function.")⟩,
  ⟨"type", .slot, "__getattribute__", (some "($self, name, /)"), (some "Return getattr(self, name).")⟩,
  ⟨"type", .slot, "__setattr__", (some "($self, name, value, /)"), (some ("Implement setattr(self, name, " ++
    "value)."))⟩,
  ⟨"type", .slot, "__delattr__", (some "($self, name, /)"), (some "Implement delattr(self, name).")⟩,
  ⟨"type", .slot, "__init__", (some "($self, /, *args, **kwargs)"), (some ("Initialize self.  See " ++
    "help(type(self)) for accurate signature."))⟩,
  ⟨"type", .slot, "__or__", (some "($self, value, /)"), (some "Return self|value.")⟩,
  ⟨"type", .slot, "__ror__", (some "($self, value, /)"), (some "Return value|self.")⟩,
  ⟨"type", .method, "mro", (some "($self, /)"), (some "Return a type's method resolution order.")⟩,
  ⟨"type", .method, "__subclasses__", (some "($self, /)"), (some "Return a list of immediate subclasses.")⟩,
  ⟨"type", .ofClass, "__prepare__", none, (some ("__prepare__() -> dict\nused to create the namespace for the " ++
    "class statement"))⟩,
  ⟨"type", .method, "__instancecheck__", (some "($self, instance, /)"), (some ("Check if an object is an " ++
    "instance."))⟩,
  ⟨"type", .method, "__subclasscheck__", (some "($self, subclass, /)"), (some ("Check if a class is a " ++
    "subclass."))⟩,
  ⟨"type", .method, "__dir__", (some "($self, /)"), (some "Specialized __dir__ implementation for types.")⟩,
  ⟨"type", .method, "__sizeof__", (some "($self, /)"), (some "Return memory consumption of the type object.")⟩,
  ⟨"type", .stored, "__basicsize__", none, none⟩,
  ⟨"type", .stored, "__itemsize__", none, none⟩,
  ⟨"type", .stored, "__flags__", none, none⟩,
  ⟨"type", .stored, "__weakrefoffset__", none, none⟩,
  ⟨"type", .stored, "__base__", none, none⟩,
  ⟨"type", .stored, "__dictoffset__", none, none⟩,
  ⟨"type", .stored, "__mro__", none, none⟩,
  ⟨"type", .computed, "__name__", none, none⟩,
  ⟨"type", .computed, "__qualname__", none, none⟩,
  ⟨"type", .computed, "__bases__", none, none⟩,
  ⟨"type", .computed, "__module__", none, none⟩,
  ⟨"type", .computed, "__abstractmethods__", none, none⟩,
  ⟨"type", .computed, "__dict__", none, none⟩,
  ⟨"type", .computed, "__doc__", none, none⟩,
  ⟨"type", .computed, "__text_signature__", none, none⟩,
  ⟨"type", .computed, "__annotations__", none, none⟩,
  ⟨"tuple", .fixed, "__new__", (some "($type, *args, **kwargs)"), (some ("Create and return a new object.  See " ++
    "help(type) for accurate signature."))⟩,
  ⟨"tuple", .slot, "__repr__", (some "($self, /)"), (some "Return repr(self).")⟩,
  ⟨"tuple", .slot, "__hash__", (some "($self, /)"), (some "Return hash(self).")⟩,
  ⟨"tuple", .slot, "__getattribute__", (some "($self, name, /)"), (some "Return getattr(self, name).")⟩,
  ⟨"tuple", .slot, "__lt__", (some "($self, value, /)"), (some "Return self<value.")⟩,
  ⟨"tuple", .slot, "__le__", (some "($self, value, /)"), (some "Return self<=value.")⟩,
  ⟨"tuple", .slot, "__eq__", (some "($self, value, /)"), (some "Return self==value.")⟩,
  ⟨"tuple", .slot, "__ne__", (some "($self, value, /)"), (some "Return self!=value.")⟩,
  ⟨"tuple", .slot, "__gt__", (some "($self, value, /)"), (some "Return self>value.")⟩,
  ⟨"tuple", .slot, "__ge__", (some "($self, value, /)"), (some "Return self>=value.")⟩,
  ⟨"tuple", .slot, "__iter__", (some "($self, /)"), (some "Implement iter(self).")⟩,
  ⟨"tuple", .slot, "__len__", (some "($self, /)"), (some "Return len(self).")⟩,
  ⟨"tuple", .slot, "__getitem__", (some "($self, key, /)"), (some "Return self[key].")⟩,
  ⟨"tuple", .slot, "__add__", (some "($self, value, /)"), (some "Return self+value.")⟩,
  ⟨"tuple", .slot, "__mul__", (some "($self, value, /)"), (some "Return self*value.")⟩,
  ⟨"tuple", .slot, "__rmul__", (some "($self, value, /)"), (some "Return value*self.")⟩,
  ⟨"tuple", .slot, "__contains__", (some "($self, key, /)"), (some "Return key in self.")⟩,
  ⟨"tuple", .method, "__getnewargs__", (some "($self, /)"), none⟩,
  ⟨"tuple", .method, "index", (some "($self, value, start=0, stop=sys.maxsize, /)"),
    (some "Return first index of value.\n\nRaises ValueError if the value is not present.")⟩,
  ⟨"tuple", .method, "count", (some "($self, value, /)"), (some "Return number of occurrences of value.")⟩,
  ⟨"tuple", .ofClass, "__class_getitem__", none, (some "See PEP 585")⟩,
  ⟨"tuple", .text, "__doc__", none, (some ("Built-in immutable sequence.\n\nIf no argument is given, the " ++
    "constructor returns an empty tuple.\nIf iterable is specified the tuple is initialized from iterable's " ++
    "items.\n\nIf the argument is a tuple, the return value is the same object."))⟩,
  ⟨"NoneType", .fixed, "__new__", (some "($type, *args, **kwargs)"), (some ("Create and return a new object.  " ++
    "See help(type) for accurate signature."))⟩,
  ⟨"NoneType", .slot, "__repr__", (some "($self, /)"), (some "Return repr(self).")⟩,
  ⟨"NoneType", .slot, "__bool__", (some "($self, /)"), (some "True if self else False")⟩,
  ⟨"NoneType", .nothing, "__doc__", none, none⟩,
  ⟨"builtin_function_or_method", .slot, "__repr__", (some "($self, /)"), (some "Return repr(self).")⟩,
  ⟨"builtin_function_or_method", .slot, "__hash__", (some "($self, /)"), (some "Return hash(self).")⟩,
  ⟨"builtin_function_or_method", .slot, "__call__", (some "($self, /, *args, **kwargs)"),
    (some "Call self as a function.")⟩,
  ⟨"builtin_function_or_method", .slot, "__getattribute__", (some "($self, name, /)"),
    (some "Return getattr(self, name).")⟩,
  ⟨"builtin_function_or_method", .slot, "__lt__", (some "($self, value, /)"), (some "Return self<value.")⟩,
  ⟨"builtin_function_or_method", .slot, "__le__", (some "($self, value, /)"), (some "Return self<=value.")⟩,
  ⟨"builtin_function_or_method", .slot, "__eq__", (some "($self, value, /)"), (some "Return self==value.")⟩,
  ⟨"builtin_function_or_method", .slot, "__ne__", (some "($self, value, /)"), (some "Return self!=value.")⟩,
  ⟨"builtin_function_or_method", .slot, "__gt__", (some "($self, value, /)"), (some "Return self>value.")⟩,
  ⟨"builtin_function_or_method", .slot, "__ge__", (some "($self, value, /)"), (some "Return self>=value.")⟩,
  ⟨"builtin_function_or_method", .method, "__reduce__", none, none⟩,
  ⟨"builtin_function_or_method", .stored, "__module__", none, none⟩,
  ⟨"builtin_function_or_method", .computed, "__doc__", none, none⟩,
  ⟨"builtin_function_or_method", .computed, "__name__", none, none⟩,
  ⟨"builtin_function_or_method", .computed, "__qualname__", none, none⟩,
  ⟨"builtin_function_or_method", .computed, "__self__", none, none⟩,
  ⟨"builtin_function_or_method", .computed, "__text_signature__", none, none⟩,
  ⟨"method-wrapper", .slot, "__repr__", (some "($self, /)"), (some "Return repr(self).")⟩,
  ⟨"method-wrapper", .slot, "__hash__", (some "($self, /)"), (some "Return hash(self).")⟩,
  ⟨"method-wrapper", .slot, "__call__", (some "($self, /, *args, **kwargs)"), (some "Call self as a function.")⟩,
  ⟨"method-wrapper", .slot, "__getattribute__", (some "($self, name, /)"), (some "Return getattr(self, name).")⟩,
  ⟨"method-wrapper", .slot, "__lt__", (some "($self, value, /)"), (some "Return self<value.")⟩,
  ⟨"method-wrapper", .slot, "__le__", (some "($self, value, /)"), (some "Return self<=value.")⟩,
  ⟨"method-wrapper", .slot, "__eq__", (some "($self, value, /)"), (some "Return self==value.")⟩,
  ⟨"method-wrapper", .slot, "__ne__", (some "($self, value, /)"), (some "Return self!=value.")⟩,
  ⟨"method-wrapper", .slot, "__gt__", (some "($self, value, /)"), (some "Return self>value.")⟩,
  ⟨"method-wrapper", .slot, "__ge__", (some "($self, value, /)"), (some "Return self>=value.")⟩,
  ⟨"method-wrapper", .method, "__reduce__", none, none⟩,
  ⟨"method-wrapper", .stored, "__self__", none, none⟩,
  ⟨"method-wrapper", .computed, "__objclass__", none, none⟩,
  ⟨"method-wrapper", .computed, "__name__", none, none⟩,
  ⟨"method-wrapper", .computed, "__qualname__", none, none⟩,
  ⟨"method-wrapper", .computed, "__doc__", none, none⟩,
  ⟨"method-wrapper", .computed, "__text_signature__", none, none⟩,
  ⟨"method_descriptor", .slot, "__repr__", (some "($self, /)"), (some "Return repr(self).")⟩,
  ⟨"method_descriptor", .slot, "__call__", (some "($self, /, *args, **kwargs)"),
    (some "Call self as a function.")⟩,
  ⟨"method_descriptor", .slot, "__getattribute__", (some "($self, name, /)"), (some ("Return getattr(self, " ++
    "name)."))⟩,
  ⟨"method_descriptor", .slot, "__get__", (some "($self, instance, owner=None, /)"),
    (some "Return an attribute of instance, which is of type owner.")⟩,
  ⟨"method_descriptor", .method, "__reduce__", none, none⟩,
  ⟨"method_descriptor", .stored, "__objclass__", none, none⟩,
  ⟨"method_descriptor", .stored, "__name__", none, none⟩,
  ⟨"method_descriptor", .computed, "__doc__", none, none⟩,
  ⟨"method_descriptor", .computed, "__qualname__", none, none⟩,
  ⟨"method_descriptor", .computed, "__text_signature__", none, none⟩,
  ⟨"wrapper_descriptor", .slot, "__repr__", (some "($self, /)"), (some "Return repr(self).")⟩,
  ⟨"wrapper_descriptor", .slot, "__call__", (some "($self, /, *args, **kwargs)"),
    (some "Call self as a function.")⟩,
  ⟨"wrapper_descriptor", .slot, "__getattribute__", (some "($self, name, /)"), (some ("Return getattr(self, " ++
    "name)."))⟩,
  ⟨"wrapper_descriptor", .slot, "__get__", (some "($self, instance, owner=None, /)"),
    (some "Return an attribute of instance, which is of type owner.")⟩,
  ⟨"wrapper_descriptor", .method, "__reduce__", none, none⟩,
  ⟨"wrapper_descriptor", .stored, "__objclass__", none, none⟩,
  ⟨"wrapper_descriptor", .stored, "__name__", none, none⟩,
  ⟨"wrapper_descriptor", .computed, "__doc__", none, none⟩,
  ⟨"wrapper_descriptor", .computed, "__qualname__", none, none⟩,
  ⟨"wrapper_descriptor", .computed, "__text_signature__", none, none⟩,
  ⟨"getset_descriptor", .slot, "__repr__", (some "($self, /)"), (some "Return repr(self).")⟩,
  ⟨"getset_descriptor", .slot, "__getattribute__", (some "($self, name, /)"), (some ("Return getattr(self, " ++
    "name)."))⟩,
  ⟨"getset_descriptor", .slot, "__get__", (some "($self, instance, owner=None, /)"),
    (some "Return an attribute of instance, which is of type owner.")⟩,
  ⟨"getset_descriptor", .slot, "__set__", (some "($self, instance, value, /)"), (some ("Set an attribute of " ++
    "instance to value."))⟩,
  ⟨"getset_descriptor", .slot, "__delete__", (some "($self, instance, /)"), (some ("Delete an attribute of " ++
    "instance."))⟩,
  ⟨"getset_descriptor", .stored, "__objclass__", none, none⟩,
  ⟨"getset_descriptor", .stored, "__name__", none, none⟩,
  ⟨"getset_descriptor", .computed, "__doc__", none, none⟩,
  ⟨"getset_descriptor", .computed, "__qualname__", none, none⟩,
  ⟨"member_descriptor", .slot, "__repr__", (some "($self, /)"), (some "Return repr(self).")⟩,
  ⟨"member_descriptor", .slot, "__getattribute__", (some "($self, name, /)"), (some ("Return getattr(self, " ++
    "name)."))⟩,
  ⟨"member_descriptor", .slot, "__get__", (some "($self, instance, owner=None, /)"),
    (some "Return an attribute of instance, which is of type owner.")⟩,
  ⟨"member_descriptor", .slot, "__set__", (some "($self, instance, value, /)"), (some ("Set an attribute of " ++
    "instance to value."))⟩,
  ⟨"member_descriptor", .slot, "__delete__", (some "($self, instance, /)"), (some ("Delete an attribute of " ++
    "instance."))⟩,
  ⟨"member_descriptor", .method, "__reduce__", none, none⟩,
  ⟨"member_descriptor", .stored, "__objclass__", none, none⟩,
  ⟨"member_descriptor", .stored, "__name__", none, none⟩,
  ⟨"member_descriptor", .computed, "__doc__", none, none⟩,
  ⟨"member_descriptor", .computed, "__qualname__", none, none⟩,
  ⟨"classmethod_descriptor", .slot, "__repr__", (some "($self, /)"), (some "Return repr(self).")⟩,
  ⟨"classmethod_descriptor", .slot, "__call__", (some "($self, /, *args, **kwargs)"),
    (some "Call self as a function.")⟩,
  ⟨"classmethod_descriptor", .slot, "__getattribute__", (some "($self, name, /)"),
    (some "Return getattr(self, name).")⟩,
  ⟨"classmethod_descriptor", .slot, "__get__", (some "($self, instance, owner=None, /)"),
    (some "Return an attribute of instance, which is of type owner.")⟩,
  ⟨"classmethod_descriptor", .stored, "__objclass__", none, none⟩,
  ⟨"classmethod_descriptor", .stored, "__name__", none, none⟩,
  ⟨"classmethod_descriptor", .computed, "__doc__", none, none⟩,
  ⟨"classmethod_descriptor", .computed, "__qualname__", none, none⟩,
  ⟨"classmethod_descriptor", .computed, "__text_signature__", none, none⟩,
  ⟨"mappingproxy", .fixed, "__new__", (some "($type, *args, **kwargs)"), (some ("Create and return a new " ++
    "object.  See help(type) for accurate signature."))⟩,
  ⟨"mappingproxy", .slot, "__repr__", (some "($self, /)"), (some "Return repr(self).")⟩,
  ⟨"mappingproxy", .slot, "__str__", (some "($self, /)"), (some "Return str(self).")⟩,
  ⟨"mappingproxy", .slot, "__getattribute__", (some "($self, name, /)"), (some "Return getattr(self, name).")⟩,
  ⟨"mappingproxy", .slot, "__lt__", (some "($self, value, /)"), (some "Return self<value.")⟩,
  ⟨"mappingproxy", .slot, "__le__", (some "($self, value, /)"), (some "Return self<=value.")⟩,
  ⟨"mappingproxy", .slot, "__eq__", (some "($self, value, /)"), (some "Return self==value.")⟩,
  ⟨"mappingproxy", .slot, "__ne__", (some "($self, value, /)"), (some "Return self!=value.")⟩,
  ⟨"mappingproxy", .slot, "__gt__", (some "($self, value, /)"), (some "Return self>value.")⟩,
  ⟨"mappingproxy", .slot, "__ge__", (some "($self, value, /)"), (some "Return self>=value.")⟩,
  ⟨"mappingproxy", .slot, "__iter__", (some "($self, /)"), (some "Implement iter(self).")⟩,
  ⟨"mappingproxy", .slot, "__or__", (some "($self, value, /)"), (some "Return self|value.")⟩,
  ⟨"mappingproxy", .slot, "__ror__", (some "($self, value, /)"), (some "Return value|self.")⟩,
  ⟨"mappingproxy", .slot, "__ior__", (some "($self, value, /)"), (some "Return self|=value.")⟩,
  ⟨"mappingproxy", .slot, "__len__", (some "($self, /)"), (some "Return len(self).")⟩,
  ⟨"mappingproxy", .slot, "__getitem__", (some "($self, key, /)"), (some "Return self[key].")⟩,
  ⟨"mappingproxy", .slot, "__contains__", (some "($self, key, /)"), (some "Return key in self.")⟩,
  ⟨"mappingproxy", .method, "get", none, (some "D.get(k[,d]) -> D[k] if k in D, else d.  d defaults to None.")⟩,
  ⟨"mappingproxy", .method, "keys", none, (some "D.keys() -> a set-like object providing a view on D's keys")⟩,
  ⟨"mappingproxy", .method, "values", none, (some "D.values() -> an object providing a view on D's values")⟩,
  ⟨"mappingproxy", .method, "items", none, (some ("D.items() -> a set-like object providing a view on D's " ++
    "items"))⟩,
  ⟨"mappingproxy", .method, "copy", none, (some "D.copy() -> a shallow copy of D")⟩,
  ⟨"mappingproxy", .ofClass, "__class_getitem__", none, (some "See PEP 585")⟩,
  ⟨"mappingproxy", .method, "__reversed__", none, (some "D.__reversed__() -> reverse iterator")⟩,
  ⟨"mappingproxy", .nothing, "__doc__", none, none⟩,
  ⟨"mappingproxy", .nothing, "__hash__", none, none⟩]

end EntityViews
