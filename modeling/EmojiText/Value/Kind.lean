import EmojiText.Text.Basic

/-!
Kinds of values that the name of a field can reach, and the members that each kind gives its values.

A kind has the members of its own and those of its ancestors; of two with one name the nearer one
counts. A member says by its sort how it is seen from a value: as something that the value holds, or
as something to do with it.
-/

namespace EmojiText

/-- The kinds of values. -/
inductive Kind where
  /-- The kind that all others descend from. -/
  | anything
  /-- The opening of a file. -/
  | opening
  | zonedMoment
  | moment
  | day
  | span
  | zone
  | anyZone
  | integer
  | text
  | nothing
  | table
  /-- The table of the members of a kind. -/
  | view
  | row
  | kind
  | function
  | boundFunction
  | boundMethod
  | boundOperator
  | operator
  | method
  | kindMethod
  | property
  | slot
  | code
deriving DecidableEq, Repr

/-- How a member is seen from a value. -/
inductive MemberSort where
  /-- Something to do with a value, defined by the program. -/
  | function
  /-- Something to do with a value that has a sign of its own, such as a comparison. -/
  | operator
  /-- Something to do with a value. -/
  | method
  /-- Something to do with the kind of a value. -/
  | kindMethod
  /-- Something to do without a value. -/
  | free
  /-- Something that the value tells of itself. -/
  | property
  /-- Something that the value holds. -/
  | slot
  /-- The same for all values. -/
  | constant
deriving DecidableEq, Repr

namespace Kind

/-- The name of a kind. -/
def name : Kind → Text
  | anything => "object"
  | opening => "FileDateFormatter"
  | zonedMoment | moment => "datetime"
  | day => "date"
  | span => "timedelta"
  | zone => "timezone"
  | anyZone => "tzinfo"
  | integer => "int"
  | .text => "str"
  | nothing => "NoneType"
  | table => "dict"
  | view => "mappingproxy"
  | row => "tuple"
  | kind => "type"
  | function => "function"
  | boundFunction => "method"
  | boundMethod => "builtin_function_or_method"
  | boundOperator => "method-wrapper"
  | operator => "wrapper_descriptor"
  | method => "method_descriptor"
  | kindMethod => "classmethod_descriptor"
  | property => "getset_descriptor"
  | slot => "member_descriptor"
  | code => "code"

/-- The home of the kinds that belong to no other home. -/
def commonHome : Text := "builtins"

/-- The home of the kinds of calendar values. -/
def calendarHome : Text := "datetime"

/-- Where a kind is defined. -/
def home : Kind → Text
  | opening => "loguru._file_sink"
  | zonedMoment => "loguru._datetime"
  | moment | day | span | zone | anyZone => calendarHome
  | _ => commonHome

/-- The name of a kind with its home in front, unless that is the common one. -/
def fullName (k : Kind) : Text := if k.home = commonHome then k.name else k.home ++ "." ++ k.name

/-- Whether a kind is defined by a program, and not built in. -/
def isDefined : Kind → Bool
  | opening | zonedMoment => true
  | _ => false

/-- A kind as refusals name it. -/
def label (k : Kind) : Text := if k.isDefined then k.name else k.fullName

/-- The ancestors of a kind, the nearest one first. -/
def ancestors : Kind → List Kind
  | anything => []
  | zonedMoment => [moment, day, anything]
  | moment => [day, anything]
  | zone => [anyZone, anything]
  | _ => [anything]

/-- A kind with its ancestors. -/
def lineage (k : Kind) : List Kind := k :: k.ancestors

/-- The names of the comparisons. -/
def comparisons : String := "__lt__ __le__ __eq__ __ne__ __gt__ __ge__"

/-- The names of the members of a kind by their sorts, several to a string with blanks between
them. -/
def memberNames : Kind → List (MemberSort × List String)
  | .anything => [
    (.free, ["__new__"]),
    (.operator, ["__repr__ __hash__ __str__ __getattribute__ __setattr__ __delattr__",
      comparisons, "__init__"]),
    (.method, ["__reduce_ex__ __reduce__ __getstate__ __format__ __sizeof__ __dir__"]),
    (.kindMethod, ["__subclasshook__ __init_subclass__"]),
    (.property, ["__class__"]),
    (.constant, ["__doc__"])]
  | .opening => [
    (.constant, ["__module__"]),
    (.function, ["__init__ __format__"]),
    (.property, ["__dict__ __weakref__"]),
    (.constant, ["__doc__"])]
  | .zonedMoment => [
    (.constant, ["__module__"]),
    (.function, ["__format__"]),
    (.property, ["__dict__ __weakref__"]),
    (.constant, ["__doc__"])]
  | .moment => [
    (.free, ["__new__"]),
    (.operator, ["__repr__ __hash__ __str__ __getattribute__", comparisons,
      "__add__ __radd__ __sub__ __rsub__"]),
    (.kindMethod, ["now utcnow fromtimestamp utcfromtimestamp strptime combine fromisoformat"]),
    (.method, ["date time timetz ctime timetuple timestamp utctimetuple isoformat utcoffset",
      "tzname dst replace astimezone __reduce_ex__ __reduce__"]),
    (.property, ["hour minute second microsecond tzinfo fold"]),
    (.constant, ["__doc__ min max resolution"])]
  | .day => [
    (.free, ["__new__"]),
    (.operator, ["__repr__ __hash__ __str__ __getattribute__", comparisons,
      "__add__ __radd__ __sub__ __rsub__"]),
    (.kindMethod, ["fromtimestamp fromordinal fromisoformat fromisocalendar today"]),
    (.method, ["ctime strftime __format__ timetuple isocalendar isoformat isoweekday toordinal",
      "weekday replace __reduce__"]),
    (.property, ["year month day"]),
    (.constant, ["__doc__ min max resolution"])]
  | .span => [
    (.free, ["__new__"]),
    (.operator, ["__repr__ __hash__ __str__ __getattribute__", comparisons,
      "__add__ __radd__ __sub__ __rsub__ __mul__ __rmul__ __mod__ __rmod__ __divmod__",
      "__rdivmod__ __neg__ __pos__ __abs__ __bool__ __floordiv__ __rfloordiv__",
      "__truediv__ __rtruediv__"]),
    (.method, ["total_seconds __reduce__"]),
    (.slot, ["days seconds microseconds"]),
    (.constant, ["__doc__ resolution min max"])]
  | .zone => [
    (.free, ["__new__"]),
    (.operator, ["__repr__ __hash__ __str__", comparisons]),
    (.method, ["tzname utcoffset dst fromutc __getinitargs__"]),
    (.constant, ["__doc__ utc min max"])]
  | .anyZone => [
    (.free, ["__new__"]),
    (.operator, ["__getattribute__"]),
    (.method, ["tzname utcoffset dst fromutc __reduce__"]),
    (.constant, ["__doc__"])]
  | .integer => [
    (.free, ["__new__"]),
    (.operator, ["__repr__ __hash__ __getattribute__", comparisons,
      "__add__ __radd__ __sub__ __rsub__ __mul__ __rmul__ __mod__ __rmod__ __divmod__",
      "__rdivmod__ __pow__ __rpow__ __neg__ __pos__ __abs__ __bool__ __invert__",
      "__lshift__ __rlshift__ __rshift__ __rrshift__ __and__ __rand__ __xor__ __rxor__",
      "__or__ __ror__ __int__ __float__ __floordiv__ __rfloordiv__ __truediv__",
      "__rtruediv__ __index__"]),
    (.method, ["conjugate bit_length bit_count to_bytes as_integer_ratio __trunc__ __floor__",
      "__ceil__ __round__ __getnewargs__ __format__ __sizeof__"]),
    (.kindMethod, ["from_bytes"]),
    (.property, ["real imag numerator denominator"]),
    (.constant, ["__doc__"])]
  | .text => [
    (.free, ["__new__ maketrans"]),
    (.operator, ["__repr__ __hash__ __str__ __getattribute__", comparisons,
      "__iter__ __mod__ __rmod__ __len__ __getitem__ __add__ __mul__ __rmul__", "__contains__"]),
    (.method, ["encode replace split rsplit join capitalize casefold title center count",
      "expandtabs find partition index ljust lower lstrip rfind rindex rjust rstrip",
      "rpartition splitlines strip swapcase translate upper startswith endswith",
      "removeprefix removesuffix isascii islower isupper istitle isspace isdecimal",
      "isdigit isnumeric isalpha isalnum isidentifier isprintable zfill format",
      "format_map __format__ __sizeof__ __getnewargs__"]),
    (.constant, ["__doc__"])]
  | .nothing => [
    (.free, ["__new__"]),
    (.operator, ["__repr__ __bool__"]),
    (.constant, ["__doc__"])]
  | .table => [
    (.free, ["__new__"]),
    (.operator, ["__repr__ __getattribute__", comparisons,
      "__iter__ __init__ __or__ __ror__ __ior__ __len__ __setitem__ __delitem__"]),
    (.constant, ["__hash__ __doc__"]),
    (.method, [
      "__getitem__ __contains__ __sizeof__ get setdefault pop popitem keys items values",
      "update clear copy __reversed__"]),
    (.kindMethod, ["fromkeys __class_getitem__"])]
  | .view => [
    (.free, ["__new__"]),
    (.operator, ["__repr__ __str__ __getattribute__", comparisons,
      "__iter__ __or__ __ror__ __ior__ __len__ __getitem__ __contains__"]),
    (.method, ["get keys values items copy __reversed__"]),
    (.kindMethod, ["__class_getitem__"]),
    (.constant, ["__doc__ __hash__"])]
  | .row => [
    (.free, ["__new__"]),
    (.operator, ["__repr__ __hash__ __getattribute__", comparisons,
      "__iter__ __len__ __getitem__ __add__ __mul__ __rmul__ __contains__"]),
    (.method, ["__getnewargs__ index count"]),
    (.kindMethod, ["__class_getitem__"]),
    (.constant, ["__doc__"])]
  | .kind => [
    (.free, ["__new__"]),
    (.operator, ["__repr__ __call__ __getattribute__ __setattr__ __delattr__ __init__ __or__",
      "__ror__"]),
    (.method, ["mro __subclasses__ __instancecheck__ __subclasscheck__ __dir__ __sizeof__"]),
    (.kindMethod, ["__prepare__"]),
    (.slot, ["__basicsize__ __itemsize__ __flags__ __weakrefoffset__ __base__ __dictoffset__",
      "__mro__"]),
    (.property, [
      "__name__ __qualname__ __bases__ __module__ __abstractmethods__ __dict__ __doc__",
      "__text_signature__ __annotations__"])]
  | .function => [
    (.free, ["__new__"]),
    (.operator, ["__repr__ __call__ __get__"]),
    (.slot, ["__closure__ __doc__ __globals__ __module__ __builtins__"]),
    (.property, ["__code__ __defaults__ __kwdefaults__ __annotations__ __dict__ __name__",
      "__qualname__"])]
  | .boundFunction => [
    (.free, ["__new__"]),
    (.operator, ["__repr__ __hash__ __call__ __getattribute__ __setattr__ __delattr__",
      comparisons]),
    (.method, ["__reduce__"]),
    (.slot, ["__func__ __self__"]),
    (.property, ["__doc__"])]
  | .boundMethod => [
    (.operator, ["__repr__ __hash__ __call__ __getattribute__", comparisons]),
    (.method, ["__reduce__"]),
    (.slot, ["__module__"]),
    (.property, ["__doc__ __name__ __qualname__ __self__ __text_signature__"])]
  | .boundOperator => [
    (.operator, ["__repr__ __hash__ __call__ __getattribute__", comparisons]),
    (.method, ["__reduce__"]),
    (.slot, ["__self__"]),
    (.property, ["__objclass__ __name__ __qualname__ __doc__ __text_signature__"])]
  | .operator => [
    (.operator, ["__repr__ __call__ __getattribute__ __get__"]),
    (.method, ["__reduce__"]),
    (.slot, ["__objclass__ __name__"]),
    (.property, ["__doc__ __qualname__ __text_signature__"])]
  | .method => [
    (.operator, ["__repr__ __call__ __getattribute__ __get__"]),
    (.method, ["__reduce__"]),
    (.slot, ["__objclass__ __name__"]),
    (.property, ["__doc__ __qualname__ __text_signature__"])]
  | .kindMethod => [
    (.operator, ["__repr__ __call__ __getattribute__ __get__"]),
    (.slot, ["__objclass__ __name__"]),
    (.property, ["__doc__ __qualname__ __text_signature__"])]
  | .property => [
    (.operator, ["__repr__ __getattribute__ __get__ __set__ __delete__"]),
    (.slot, ["__objclass__ __name__"]),
    (.property, ["__doc__ __qualname__"])]
  | .slot => [
    (.operator, ["__repr__ __getattribute__ __get__ __set__ __delete__"]),
    (.method, ["__reduce__"]),
    (.slot, ["__objclass__ __name__"]),
    (.property, ["__doc__ __qualname__"])]
  | .code => [
    (.free, ["__new__"]),
    (.operator, ["__repr__ __hash__ __getattribute__", comparisons]),
    (.method, ["__sizeof__ co_lines co_positions replace _varname_from_oparg"]),
    (.slot, ["co_argcount co_posonlyargcount co_kwonlyargcount co_stacksize co_flags",
      "co_nlocals co_consts co_names co_filename co_name co_qualname co_firstlineno",
      "co_linetable co_exceptiontable"]),
    (.property, ["co_lnotab _co_code_adaptive co_varnames co_cellvars co_freevars co_code"]),
    (.constant, ["__doc__"])]

end Kind

/-- A member of the values of a kind. -/
structure Member where
  home : Kind
  name : Text
  sort : MemberSort
deriving DecidableEq, Repr

namespace Member

/-- Whether a member tells of a value before anything that the value has on its own. -/
def isData (member : Member) : Bool := member.sort = .property || member.sort = .slot

/-- The name of a member behind the one of its kind. -/
def nameBehind (member : Member) (k : Kind) : Text := k.name ++ "." ++ member.name

end Member

namespace Kind

/-- The members that a kind adds to those of its ancestors. -/
def ownMembers (k : Kind) : List Member :=
  k.memberNames.flatMap fun (sort, lists) =>
    lists.flatMap fun names =>
      (Text.split 0x20 (Text.ofString names)).map fun name => { home := k, name, sort }

/-- The member of a name. -/
def member? (k : Kind) (name : Text) : Option Member :=
  k.lineage.findSome? fun k => k.ownMembers.find? (·.name = name)

end Kind

end EmojiText
