import PartitionTest.Shell.Objects.Library.Iteration
import PartitionTest.Shell.Objects.Library.Collections

/-! Modules that are scripts of the language themselves. -/
namespace PartitionTest.Shell.Objects.Library

def functools : List String := [
  "WRAPPER_ASSIGNMENTS = ('__module__', '__name__', '__qualname__', '__doc__', '__annotations__')",
  "WRAPPER_UPDATES = ('__dict__',)",
  "def update_wrapper(wrapper, wrapped, assigned=WRAPPER_ASSIGNMENTS, updated=WRAPPER_UPDATES):",
  "    for name in assigned:",
  "        if hasattr(wrapped, name):",
  "            setattr(wrapper, name, getattr(wrapped, name))",
  "    for name in updated:",
  "        getattr(wrapper, name).update(getattr(wrapped, name, \x7b\x7d))",
  "    wrapper.__wrapped__ = wrapped",
  "    return wrapper",
  "def wraps(wrapped, assigned=WRAPPER_ASSIGNMENTS, updated=WRAPPER_UPDATES):",
  "    return lambda wrapper: update_wrapper(wrapper, wrapped, assigned, updated)",
  "class partial:",
  "    def __init__(self, func, /, *args, **keywords):",
  "        if not callable(func):",
  "            raise TypeError('the first argument must be callable')",
  "        if isinstance(func, partial):",
  "            args = func.args + args",
  "            keywords = \x7b**func.keywords, **keywords\x7d",
  "            func = func.func",
  "        self.func = func",
  "        self.args = args",
  "        self.keywords = keywords",
  "    def __call__(self, /, *args, **keywords):",
  "        return self.func(*self.args, *args, **\x7b**self.keywords, **keywords\x7d)",
  "    def __repr__(self):",
  "        parts = [repr(self.func)] + [repr(x) for x in self.args]",
  "        parts += ['%s=%r' % item for item in self.keywords.items()]",
  "        return 'functools.partial(%s)' % ', '.join(parts)",
  "class partialmethod:",
  "    def __init__(self, func, /, *args, **keywords):",
  "        self.func = func",
  "        self.args = args",
  "        self.keywords = keywords",
  "    def __get__(self, obj, cls=None):",
  "        bound = self.func.__get__(obj, cls)",
  "        return partial(bound, *self.args, **self.keywords)",
  "class _Key:",
  "    def __init__(self, compare, obj):",
  "        self.compare = compare",
  "        self.obj = obj",
  "    def __lt__(self, other):",
  "        return self.compare(self.obj, other.obj) < 0",
  "    def __gt__(self, other):",
  "        return self.compare(self.obj, other.obj) > 0",
  "    def __eq__(self, other):",
  "        return self.compare(self.obj, other.obj) == 0",
  "    def __le__(self, other):",
  "        return self.compare(self.obj, other.obj) <= 0",
  "    def __ge__(self, other):",
  "        return self.compare(self.obj, other.obj) >= 0",
  "    __hash__ = None",
  "def cmp_to_key(mycmp):",
  "    return lambda obj: _Key(mycmp, obj)",
  "class cached_property:",
  "    def __init__(self, func):",
  "        self.func = func",
  "        self.attrname = None",
  "        self.__doc__ = func.__doc__",
  "    def __set_name__(self, owner, name):",
  "        self.attrname = name",
  "    def __get__(self, instance, owner=None):",
  "        if instance is None:",
  "            return self",
  "        value = self.func(instance)",
  "        instance.__dict__[self.attrname] = value",
  "        return value",
  "def _not(f):",
  "    def opposite(self, other):",
  "        r = f(self, other)",
  "        return r if r is NotImplemented else not r",
  "    return opposite",
  "def _both(f, isEqual, wanted):",
  "    def joined(self, other):",
  "        r = f(self, other)",
  "        if r is NotImplemented:",
  "            return r",
  "        return (r or self == other) if isEqual else (not r and self != other) if wanted else (not r or self == other)",
  "    return joined",
  "def total_ordering(cls):",
  "    def own(name):",
  "        for c in cls.__mro__:",
  "            if c is object:",
  "                return None",
  "            if name in c.__dict__:",
  "                return c.__dict__[name]",
  "    lt, le, gt, ge = [own(s) for s in ('__lt__', '__le__', '__gt__', '__ge__')]",
  "    if lt:",
  "        new = \x7b'__gt__': _both(lt, False, True), '__le__': _both(lt, True, True), '__ge__': _not(lt)\x7d",
  "    elif le:",
  "        new = \x7b'__ge__': _both(le, False, False), '__lt__': _with(le), '__gt__': _not(le)\x7d",
  "    elif gt:",
  "        new = \x7b'__lt__': _both(gt, False, True), '__ge__': _both(gt, True, True), '__le__': _not(gt)\x7d",
  "    elif ge:",
  "        new = \x7b'__le__': _both(ge, False, False), '__gt__': _with(ge), '__lt__': _not(ge)\x7d",
  "    else:",
  "        raise ValueError('must define at least one ordering operation: < > <= >=')",
  "    for name, f in new.items():",
  "        if not own(name):",
  "            f.__name__ = name",
  "            setattr(cls, name, f)",
  "    return cls",
  "def _with(f):",
  "    def strict(self, other):",
  "        r = f(self, other)",
  "        return r if r is NotImplemented else r and self != other",
  "    return strict",
  "def singledispatch(func):",
  "    registry = \x7bobject: func\x7d",
  "    def dispatch(cls):",
  "        for c in cls.__mro__:",
  "            if c in registry:",
  "                return registry[c]",
  "        for c, f in registry.items():",
  "            if c is not object and issubclass(cls, c):",
  "                return f",
  "        return func",
  "    def register(cls, f=None):",
  "        if f is None:",
  "            if isinstance(cls, type):",
  "                return lambda f: register(cls, f)",
  "            f = cls",
  "            cls = list(f.__annotations__.values())[0]",
  "        for c in getattr(cls, '__args__', None) or (cls,):",
  "            registry[c] = f",
  "        return f",
  "    def wrapper(*args, **keywords):",
  "        if not args:",
  "            raise TypeError(wrapper.__name__ + ' requires at least 1 positional argument')",
  "        return dispatch(args[0].__class__)(*args, **keywords)",
  "    update_wrapper(wrapper, func)",
  "    wrapper.register = register",
  "    wrapper.dispatch = dispatch",
  "    wrapper.registry = registry",
  "    return wrapper",
  "class singledispatchmethod:",
  "    def __init__(self, func):",
  "        self.dispatcher = singledispatch(func)",
  "        self.func = func",
  "    def register(self, cls, method=None):",
  "        return self.dispatcher.register(cls, method)",
  "    def __get__(self, obj, cls=None):",
  "        def method(*args, **keywords):",
  "            f = self.dispatcher.dispatch(args[0].__class__)",
  "            return f.__get__(obj, cls)(*args, **keywords)",
  "        method.register = self.register",
  "        return method",
  "class _CacheInfo(tuple):",
  "    _fields = ('hits', 'misses', 'maxsize', 'currsize')",
  "    def __new__(cls, hits, misses, maxsize, currsize):",
  "        return tuple.__new__(cls, (hits, misses, maxsize, currsize))",
  "    hits = property(lambda self: self[0])",
  "    misses = property(lambda self: self[1])",
  "    maxsize = property(lambda self: self[2])",
  "    currsize = property(lambda self: self[3])",
  "    def __repr__(self):",
  "        return 'CacheInfo(hits=%r, misses=%r, maxsize=%r, currsize=%r)' % tuple(self)"]

def operator : List String := [
  "def lt(a, b): return a < b",
  "def le(a, b): return a <= b",
  "def eq(a, b): return a == b",
  "def ne(a, b): return a != b",
  "def ge(a, b): return a >= b",
  "def gt(a, b): return a > b",
  "def not_(a): return not a",
  "def truth(a): return bool(a)",
  "def is_(a, b): return a is b",
  "def is_not(a, b): return a is not b",
  "def add(a, b): return a + b",
  "def sub(a, b): return a - b",
  "def mul(a, b): return a * b",
  "def matmul(a, b): return a @ b",
  "def truediv(a, b): return a / b",
  "def floordiv(a, b): return a // b",
  "def mod(a, b): return a % b",
  "def pow(a, b): return a ** b",
  "def lshift(a, b): return a << b",
  "def rshift(a, b): return a >> b",
  "def and_(a, b): return a & b",
  "def or_(a, b): return a | b",
  "def xor(a, b): return a ^ b",
  "def neg(a): return -a",
  "def pos(a): return +a",
  "def inv(a): return ~a",
  "def invert(a): return ~a",
  "def abs(a): return a.__abs__()",
  "def index(a): return a.__index__()",
  "def concat(a, b): return a + b",
  "def contains(a, b): return b in a",
  "def getitem(a, b): return a[b]",
  "def countOf(a, b): return sum(1 for x in a if x is b or x == b)",
  "def setitem(a, b, c): a[b] = c",
  "def delitem(a, b): del a[b]",
  "def indexOf(a, b):",
  "    for i, x in enumerate(a):",
  "        if x is b or x == b:",
  "            return i",
  "    raise ValueError('sequence.index(x): x not in sequence')",
  "def iadd(a, b):",
  "    a += b",
  "    return a",
  "def isub(a, b):",
  "    a -= b",
  "    return a",
  "def imul(a, b):",
  "    a *= b",
  "    return a",
  "def iand(a, b):",
  "    a &= b",
  "    return a",
  "def ior(a, b):",
  "    a |= b",
  "    return a",
  "def ixor(a, b):",
  "    a ^= b",
  "    return a",
  "def length_hint(obj, default=0):",
  "    try:",
  "        return len(obj)",
  "    except TypeError:",
  "        f = getattr(obj, '__length_hint__', None)",
  "        return default if f is None else f()",
  "class itemgetter:",
  "    def __init__(self, item, /, *items):",
  "        self._items = (item,) + items",
  "    def __call__(self, obj):",
  "        if len(self._items) == 1:",
  "            return obj[self._items[0]]",
  "        return tuple([obj[i] for i in self._items])",
  "    def __repr__(self):",
  "        return 'operator.itemgetter(%s)' % ', '.join(map(repr, self._items))",
  "def _walk(obj, path):",
  "    for name in path.split('.'):",
  "        obj = getattr(obj, name)",
  "    return obj",
  "class attrgetter:",
  "    def __init__(self, attr, /, *attrs):",
  "        self._attrs = (attr,) + attrs",
  "        for a in self._attrs:",
  "            if not isinstance(a, str):",
  "                raise TypeError('attribute name must be a string')",
  "    def __call__(self, obj):",
  "        if len(self._attrs) == 1:",
  "            return _walk(obj, self._attrs[0])",
  "        return tuple([_walk(obj, a) for a in self._attrs])",
  "    def __repr__(self):",
  "        return 'operator.attrgetter(%s)' % ', '.join(map(repr, self._attrs))",
  "class methodcaller:",
  "    def __init__(self, name, /, *args, **kwargs):",
  "        if not isinstance(name, str):",
  "            raise TypeError('method name must be a string')",
  "        self._name = name",
  "        self._args = args",
  "        self._kwargs = kwargs",
  "    def __call__(self, obj):",
  "        return getattr(obj, self._name)(*self._args, **self._kwargs)",
  "    def __repr__(self):",
  "        parts = [repr(self._name)] + [repr(x) for x in self._args]",
  "        parts += ['%s=%r' % item for item in self._kwargs.items()]",
  "        return 'operator.methodcaller(%s)' % ', '.join(parts)"]

def abc : List String := [
  "def abstractmethod(f):",
  "    f.__isabstractmethod__ = True",
  "    return f",
  "class abstractproperty(property):",
  "    __isabstractmethod__ = True",
  "class ABCMeta(type):",
  "    def register(cls, other):",
  "        cls.__dict__.setdefault('_registered', []).append(other)",
  "        return other",
  "    def __instancecheck__(cls, value):",
  "        return cls.__subclasscheck__(type(value))",
  "    def __subclasscheck__(cls, other):",
  "        if type.__subclasscheck__(cls, other):",
  "            return True",
  "        hook = cls.__subclasshook__(other)",
  "        if hook is not NotImplemented:",
  "            return hook",
  "        for c in cls.__dict__.get('_registered', []):",
  "            if issubclass(other, c):",
  "                return True",
  "        return False",
  "class ABC(metaclass=ABCMeta):",
  "    pass"]

def sources : List (String × List String) := [
  ("itertools", itertools), ("functools", functools), ("operator", operator), ("abc", abc),
  ("collections", collections)]

def source? (path : String) : Option String := (sources.lookup path).map (String.intercalate "\n")

end PartitionTest.Shell.Objects.Library
