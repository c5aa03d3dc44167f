import EmojiText.Value.Kind

/-!
Notes: what kinds and their members say about themselves. Only some of them have a note.
-/

namespace EmojiText

namespace Kind

/-- The note on a kind. -/
def note : Kind → Option Text
  | .anything => some (
    "The base class of the class hierarchy.\n\nWhen called, it accepts no arguments and "
      ++ "returns a new featureless\ninstance that has no instance attributes and cannot be given "
      ++ "any.\n")
  | .moment => some (
    "datetime(year, month, day[, hour[, minute[, second[, microsecond[,tzinfo]]]]])\n\nThe "
      ++ "year, month and day arguments are required. tzinfo may be None, or an\ninstance of a "
      ++ "tzinfo subclass. The remaining arguments may be ints.\n")
  | .day => some "date(year, month, day) --> date object"
  | .span => some (
    "Difference between two datetime values.\n\ntimedelta(days=0, seconds=0, microseconds=0, "
      ++ "milliseconds=0, minutes=0, hours=0, weeks=0)\n\nAll arguments are optional and default "
      ++ "to 0.\nArguments may be integers or floats, and may be positive or negative.")
  | .zone => some "Fixed offset from UTC implementation of tzinfo."
  | .anyZone => some "Abstract base class for time zone info objects."
  | .integer => some (
    "int([x]) -> integer\nint(x, base=10) -> integer\n\nConvert a number or string to an "
      ++ "integer, or return 0 if no arguments\nare given.  If x is a number, return "
      ++ "x.__int__().  For floating point\nnumbers, this truncates towards zero.\n\nIf x is not "
      ++ "a number or if base is given, then x must be a string,\nbytes, or bytearray instance "
      ++ "representing an integer literal in the\ngiven base.  The literal can be preceded by '+' "
      ++ "or '-' and be surrounded\nby whitespace.  The base defaults to 10.  Valid bases are 0 "
      ++ "and 2-36.\nBase 0 means to interpret the base from the string as an integer literal.\n"
      ++ ">>> int('0b100', base=0)\n4")
  | .text => some (
    "str(object='') -> str\nstr(bytes_or_buffer[, encoding[, errors]]) -> str\n\nCreate a "
      ++ "new string object from the given object. If encoding or\nerrors is specified, then the "
      ++ "object must expose a data buffer\nthat will be decoded using the given encoding and "
      ++ "error handler.\nOtherwise, returns the result of object.__str__() (if defined)\nor "
      ++ "repr(object).\nencoding defaults to sys.getdefaultencoding().\nerrors defaults to "
      ++ "'strict'.")
  | .table => some (
    "dict() -> new empty dictionary\ndict(mapping) -> new dictionary initialized from a "
      ++ "mapping object's\n    (key, value) pairs\ndict(iterable) -> new dictionary initialized "
      ++ "as if via:\n    d = \x7b\x7d\n    for k, v in iterable:\n        d[k] = v\n"
      ++ "dict(**kwargs) -> new dictionary initialized with the name=value pairs\n    in the "
      ++ "keyword argument list.  For example:  dict(one=1, two=2)")
  | .row => some (
    "Built-in immutable sequence.\n\nIf no argument is given, the constructor returns an "
      ++ "empty tuple.\nIf iterable is specified the tuple is initialized from iterable's items.\n"
      ++ "\nIf the argument is a tuple, the return value is the same object.")
  | .kind => some "type(object) -> the object's type\ntype(name, bases, dict, **kwds) -> a new type"
  | .function => some (
    "Create a function object.\n\n  code\n    a code object\n  globals\n    the globals "
      ++ "dictionary\n  name\n    a string that overrides the name from the code object\n  argdefs"
      ++ "\n    a tuple that specifies the default argument values\n  closure\n    a tuple that "
      ++ "supplies the bindings for free variables")
  | .boundFunction => some "Create a bound instance method object."
  | .code => some "Create a code object.  Not for the faint of heart."
  | _ => none

/-- What is needed to make a value of a kind, where that is noted. -/
def signature : Kind → Option Text
  | anything => some "()"
  | row => some "(iterable=(), /)"
  | boundFunction => some "(function, instance, /)"
  | .function => some "(code, globals, name=None, argdefs=None, closure=None)"
  | _ => none

end Kind

namespace Member

/-- The notes on operators, and on what can be done with all values, below what each of them
needs. -/
def notes : List (String × List (String × String)) := [
  ("($type, *args, **kwargs)", [
    ("__new__", "Create and return a new object.  See help(type) for accurate signature.")]),
  ("($self, /)", [
    ("__repr__", "Return repr(self)."),
    ("__hash__", "Return hash(self)."),
    ("__str__", "Return str(self)."),
    ("__reduce__", "Helper for pickle."),
    ("__getstate__", "Helper for pickle."),
    ("__sizeof__", "Size of object in memory, in bytes."),
    ("__dir__", "Default dir() implementation."),
    ("__neg__", "-self"),
    ("__pos__", "+self"),
    ("__abs__", "abs(self)"),
    ("__bool__", "True if self else False"),
    ("__invert__", "~self"),
    ("__int__", "int(self)"),
    ("__float__", "float(self)"),
    ("__index__", "Return self converted to an integer, if self is "
      ++ "suitable for use as an index into a list."),
    ("__iter__", "Implement iter(self)."),
    ("__len__", "Return len(self).")]),
  ("($self, name, /)", [
    ("__getattribute__", "Return getattr(self, name)."),
    ("__delattr__", "Implement delattr(self, name).")]),
  ("($self, name, value, /)", [
    ("__setattr__", "Implement setattr(self, name, value).")]),
  ("($self, value, /)", [
    ("__lt__", "Return self<value."),
    ("__le__", "Return self<=value."),
    ("__eq__", "Return self==value."),
    ("__ne__", "Return self!=value."),
    ("__gt__", "Return self>value."),
    ("__ge__", "Return self>=value."),
    ("__add__", "Return self+value."),
    ("__radd__", "Return value+self."),
    ("__sub__", "Return self-value."),
    ("__rsub__", "Return value-self."),
    ("__mul__", "Return self*value."),
    ("__rmul__", "Return value*self."),
    ("__mod__", "Return self%value."),
    ("__rmod__", "Return value%self."),
    ("__divmod__", "Return divmod(self, value)."),
    ("__rdivmod__", "Return divmod(value, self)."),
    ("__floordiv__", "Return self//value."),
    ("__rfloordiv__", "Return value//self."),
    ("__truediv__", "Return self/value."),
    ("__rtruediv__", "Return value/self."),
    ("__lshift__", "Return self<<value."),
    ("__rlshift__", "Return value<<self."),
    ("__rshift__", "Return self>>value."),
    ("__rrshift__", "Return value>>self."),
    ("__and__", "Return self&value."),
    ("__rand__", "Return value&self."),
    ("__xor__", "Return self^value."),
    ("__rxor__", "Return value^self."),
    ("__or__", "Return self|value."),
    ("__ror__", "Return value|self."),
    ("__ior__", "Return self|=value.")]),
  ("($self, /, *args, **kwargs)", [
    ("__init__", "Initialize self.  See help(type(self)) for accurate signature."),
    ("__call__", "Call self as a function.")]),
  ("($self, protocol, /)", [
    ("__reduce_ex__", "Helper for pickle.")]),
  ("($self, format_spec, /)", [
    ("__format__", "Default object formatter.")]),
  ("($self, value, mod=None, /)", [
    ("__pow__", "Return pow(self, value, mod)."),
    ("__rpow__", "Return pow(value, self, mod).")]),
  ("($self, key, /)", [
    ("__getitem__", "Return self[key]."),
    ("__contains__", "Return key in self."),
    ("__delitem__", "Delete self[key].")]),
  ("($self, key, value, /)", [
    ("__setitem__", "Set self[key] to value.")]),
  ("($self, instance, owner=None, /)", [
    ("__get__", "Return an attribute of instance, which is of type owner.")]),
  ("($self, instance, value, /)", [
    ("__set__", "Set an attribute of instance to value.")]),
  ("($self, instance, /)", [
    ("__delete__", "Delete an attribute of instance.")])]

/-- The notes on what can be done with all kinds. -/
def kindNotes : List (Text × Text) := [
  ("__subclasshook__", "Abstract classes can override this to customize issubclass().\n\nThis is "
    ++ "invoked early on by abc.ABCMeta.__subclasscheck__().\nIt should return True, False or "
    ++ "NotImplemented.  If it returns\nNotImplemented, the normal algorithm is used.  Otherwise, "
    ++ "it\noverrides the normal algorithm (and the outcome is cached).\n"),
  ("__init_subclass__", "This method is called when a class is subclassed.\n\nThe default "
    ++ "implementation does nothing. It may be\noverridden to extend subclasses.\n"),
  ("__class__", "the object's class")]

/-- Whether a member may have a note: operators do, and what needs no value or is common to all. -/
def isNoted (member : Member) : Bool :=
  member.sort = .operator || member.sort = .free || member.home = .anything

/-- The note on a member with what it needs. -/
def entry? (member : Member) : Option (Text × Text) :=
  if !member.isNoted then none
  else notes.findSome? fun (signature, notes) =>
    notes.findSome? fun (name, note) =>
      if member.name = Text.ofString name then some (Text.ofString note, Text.ofString signature)
      else none

/-- The note on a member. -/
def note (member : Member) : Option Text :=
  if member.isNoted then (member.entry?.map (·.1)) <|> kindNotes.lookup member.name else none

/-- What a member needs. -/
def signature (member : Member) : Option Text := member.entry?.map (·.2)

end Member

end EmojiText
