/-! Containers for special jobs, as a script of the language itself. -/
namespace PartitionTest.Shell.Objects.Library

def collections : List String := [
  "def _is_name(s):",
  "    return s.isidentifier()",
  "_reserved = ('False', 'None', 'True', 'and', 'as', 'assert', 'async', 'await', 'break', 'class', 'continue', 'def',",
  "    'del', 'elif', 'else', 'except', 'finally', 'for', 'from', 'global', 'if', 'import', 'in', 'is', 'lambda',",
  "    'nonlocal', 'not', 'or', 'pass', 'raise', 'return', 'try', 'while', 'with', 'yield')",
  "def _item(i):",
  "    return property(lambda self: self[i], doc='Alias for field number %d' % i)",
  "def namedtuple(typename, field_names, *, rename=False, defaults=None, module=None):",
  "    if isinstance(field_names, str):",
  "        field_names = field_names.replace(',', ' ').split()",
  "    field_names = [str(s) for s in field_names]",
  "    typename = str(typename)",
  "    if rename:",
  "        seen = set()",
  "        for i, name in enumerate(field_names):",
  "            if not _is_name(name) or name in _reserved or name.startswith('_') or name in seen:",
  "                field_names[i] = '_%d' % i",
  "            seen.add(name)",
  "    for name in [typename] + field_names:",
  "        if not _is_name(name):",
  "            raise ValueError('Type names and field names must be valid identifiers: %r' % name)",
  "        if name in _reserved:",
  "            raise ValueError('Type names and field names cannot be a keyword: %r' % name)",
  "    seen = set()",
  "    for name in field_names:",
  "        if name.startswith('_') and not rename:",
  "            raise ValueError('Field names cannot start with an underscore: %r' % name)",
  "        if name in seen:",
  "            raise ValueError('Encountered duplicate field name: %r' % name)",
  "        seen.add(name)",
  "    names = tuple(field_names)",
  "    given = \x7b\x7d",
  "    if defaults is not None:",
  "        defaults = tuple(defaults)",
  "        if len(defaults) > len(names):",
  "            raise TypeError('Got more default values than field names')",
  "        given = dict(zip(names[len(names) - len(defaults):], defaults))",
  "    args = ', '.join(names)",
  "    space = \x7b\x7d",
  "    exec('def __new__(_cls, %s): return tuple.__new__(_cls, (%s%s))' %",
  "        (args, args, ',' if len(names) == 1 else ''), space)",
  "    new = space['__new__']",
  "    new.__qualname__ = typename + '.__new__'",
  "    if defaults is not None:",
  "        new.__defaults__ = defaults",
  "    layout = '(' + ', '.join(name + '=%r' for name in names) + ')'",
  "    @classmethod",
  "    def _make(cls, iterable):",
  "        result = tuple.__new__(cls, iterable)",
  "        if len(result) != len(names):",
  "            raise TypeError('Expected %d arguments, got %d' % (len(names), len(result)))",
  "        return result",
  "    def _replace(self, /, **kwds):",
  "        result = self._make([kwds.pop(name, value) for name, value in zip(names, self)])",
  "        if kwds:",
  "            raise ValueError('Got unexpected field names: %r' % list(kwds))",
  "        return result",
  "    def __repr__(self):",
  "        return self.__class__.__name__ + layout % tuple(self)",
  "    def _asdict(self):",
  "        return dict(zip(names, self))",
  "    def __getnewargs__(self):",
  "        return tuple(self)",
  "    members = \x7b",
  "        '__doc__': '%s(%s)' % (typename, args), '__slots__': (), '_fields': names, '_field_defaults': given,",
  "        '__new__': new, '_make': _make, '_replace': _replace, '__repr__': __repr__, '_asdict': _asdict,",
  "        '__getnewargs__': __getnewargs__, '__match_args__': names\x7d",
  "    for i, name in enumerate(names):",
  "        members[name] = _item(i)",
  "    result = type(typename, (tuple,), members)",
  "    result.__module__ = '__main__' if module is None else module",
  "    return result",
  "class OrderedDict(dict):",
  "    def __repr__(self):",
  "        if not self:",
  "            return self.__class__.__name__ + '()'",
  "        return '%s(%r)' % (self.__class__.__name__, list(self.items()))",
  "    def __eq__(self, other):",
  "        if isinstance(other, OrderedDict):",
  "            return dict.__eq__(self, other) and list(self) == list(other)",
  "        return dict.__eq__(self, other)",
  "    def __ne__(self, other):",
  "        return not self == other",
  "    def move_to_end(self, key, last=True):",
  "        value = self[key]",
  "        if last:",
  "            dict.__delitem__(self, key)",
  "            dict.__setitem__(self, key, value)",
  "        else:",
  "            rest = [(k, v) for k, v in self.items() if k != key]",
  "            dict.clear(self)",
  "            dict.__setitem__(self, key, value)",
  "            for k, v in rest:",
  "                dict.__setitem__(self, k, v)",
  "    def popitem(self, last=True):",
  "        if not self:",
  "            raise KeyError('dictionary is empty')",
  "        key = next(reversed(self) if last else iter(self))",
  "        value = self[key]",
  "        del self[key]",
  "        return key, value",
  "    def copy(self):",
  "        return self.__class__(self)",
  "    @classmethod",
  "    def fromkeys(cls, iterable, value=None):",
  "        d = cls()",
  "        for k in iterable:",
  "            d[k] = value",
  "        return d",
  "    def __or__(self, other):",
  "        if not isinstance(other, dict):",
  "            return NotImplemented",
  "        new = self.__class__(self)",
  "        new.update(other)",
  "        return new",
  "    def __ior__(self, other):",
  "        self.update(other)",
  "        return self",
  "class defaultdict(dict):",
  "    def __init__(self, default_factory=None, /, *args, **kwargs):",
  "        if default_factory is not None and not callable(default_factory):",
  "            raise TypeError('first argument must be callable or None')",
  "        self.default_factory = default_factory",
  "        dict.__init__(self, *args, **kwargs)",
  "    def __missing__(self, key):",
  "        if self.default_factory is None:",
  "            raise KeyError(key)",
  "        self[key] = value = self.default_factory()",
  "        return value",
  "    def __repr__(self):",
  "        return '%s(%r, %s)' % (self.__class__.__name__, self.default_factory, dict.__repr__(self))",
  "    def copy(self):",
  "        return self.__class__(self.default_factory, self)",
  "    __copy__ = copy",
  "    def __or__(self, other):",
  "        if not isinstance(other, dict):",
  "            return NotImplemented",
  "        new = self.copy()",
  "        new.update(other)",
  "        return new",
  "    def __ior__(self, other):",
  "        self.update(other)",
  "        return self",
  "class Counter(dict):",
  "    def __init__(self, iterable=None, /, **kwds):",
  "        dict.__init__(self)",
  "        self.update(iterable, **kwds)",
  "    def __missing__(self, key):",
  "        return 0",
  "    def total(self):",
  "        return sum(self.values())",
  "    def most_common(self, n=None):",
  "        all = sorted(self.items(), key=lambda item: item[1], reverse=True)",
  "        return all if n is None else all[:max(n, 0)]",
  "    def elements(self):",
  "        return (x for x, n in self.items() for _ in range(n))",
  "    @classmethod",
  "    def fromkeys(cls, iterable, v=None):",
  "        raise NotImplementedError(",
  "            'Counter.fromkeys() is undefined.  Use Counter(iterable) instead.')",
  "    def update(self, iterable=None, /, **kwds):",
  "        if iterable is not None:",
  "            if isinstance(iterable, dict):",
  "                for x, n in iterable.items():",
  "                    self[x] = n + self.get(x, 0)",
  "            else:",
  "                for x in iterable:",
  "                    self[x] = self.get(x, 0) + 1",
  "        if kwds:",
  "            self.update(kwds)",
  "    def subtract(self, iterable=None, /, **kwds):",
  "        if iterable is not None:",
  "            if isinstance(iterable, dict):",
  "                for x, n in iterable.items():",
  "                    self[x] = self.get(x, 0) - n",
  "            else:",
  "                for x in iterable:",
  "                    self[x] = self.get(x, 0) - 1",
  "        if kwds:",
  "            self.subtract(kwds)",
  "    def copy(self):",
  "        return self.__class__(self)",
  "    def __delitem__(self, x):",
  "        if x in self:",
  "            dict.__delitem__(self, x)",
  "    def __repr__(self):",
  "        if not self:",
  "            return self.__class__.__name__ + '()'",
  "        try:",
  "            d = dict(self.most_common())",
  "        except TypeError:",
  "            d = dict(self)",
  "        return '%s(%r)' % (self.__class__.__name__, d)",
  "    def __eq__(self, other):",
  "        if not isinstance(other, Counter):",
  "            return NotImplemented",
  "        return all(self[x] == other[x] for c in (self, other) for x in c)",
  "    def __ne__(self, other):",
  "        if not isinstance(other, Counter):",
  "            return NotImplemented",
  "        return not self == other",
  "    def __le__(self, other):",
  "        if not isinstance(other, Counter):",
  "            return NotImplemented",
  "        return all(self[x] <= other[x] for c in (self, other) for x in c)",
  "    def __lt__(self, other):",
  "        if not isinstance(other, Counter):",
  "            return NotImplemented",
  "        return self <= other and self != other",
  "    def __ge__(self, other):",
  "        if not isinstance(other, Counter):",
  "            return NotImplemented",
  "        return all(self[x] >= other[x] for c in (self, other) for x in c)",
  "    def __gt__(self, other):",
  "        if not isinstance(other, Counter):",
  "            return NotImplemented",
  "        return self >= other and self != other",
  "    def _combined(self, other, f):",
  "        if not isinstance(other, Counter):",
  "            return NotImplemented",
  "        result = Counter()",
  "        for x in list(self) + [x for x in other if x not in self]:",
  "            n = f(self[x], other[x])",
  "            if n > 0:",
  "                result[x] = n",
  "        return result",
  "    def __add__(self, other):",
  "        return self._combined(other, lambda a, b: a + b)",
  "    def __sub__(self, other):",
  "        return self._combined(other, lambda a, b: a - b)",
  "    def __or__(self, other):",
  "        return self._combined(other, lambda a, b: b if a < b else a)",
  "    def __and__(self, other):",
  "        return self._combined(other, lambda a, b: a if a < b else b)",
  "    def __pos__(self):",
  "        return self._combined(Counter(), lambda a, b: a)",
  "    def __neg__(self):",
  "        return self._combined(Counter(), lambda a, b: -a)",
  "    def _replaced(self, new):",
  "        if new is not NotImplemented:",
  "            self.clear()",
  "            dict.update(self, new)",
  "            return self",
  "        return new",
  "    def __iadd__(self, other):",
  "        return self._replaced(self + other)",
  "    def __isub__(self, other):",
  "        return self._replaced(self - other)",
  "    def __ior__(self, other):",
  "        return self._replaced(self | other)",
  "    def __iand__(self, other):",
  "        return self._replaced(self & other)",
  "class deque:",
  "    __hash__ = None",
  "    def __init__(self, iterable=(), maxlen=None):",
  "        if maxlen is not None:",
  "            if not isinstance(maxlen, int):",
  "                raise TypeError('an integer is required')",
  "            if maxlen < 0:",
  "                raise ValueError('maxlen must be non-negative')",
  "        self._maxlen = maxlen",
  "        self._items = []",
  "        self._changes = 0",
  "        self.extend(iterable)",
  "    @property",
  "    def maxlen(self):",
  "        return self._maxlen",
  "    def append(self, x):",
  "        self._changes += 1",
  "        self._items.append(x)",
  "        if self._maxlen is not None and len(self._items) > self._maxlen:",
  "            del self._items[0]",
  "    def appendleft(self, x):",
  "        self._changes += 1",
  "        self._items.insert(0, x)",
  "        if self._maxlen is not None and len(self._items) > self._maxlen:",
  "            del self._items[-1]",
  "    def extend(self, iterable):",
  "        if iterable is self:",
  "            iterable = list(iterable)",
  "        for x in iterable:",
  "            self.append(x)",
  "    def extendleft(self, iterable):",
  "        if iterable is self:",
  "            iterable = list(iterable)",
  "        for x in iterable:",
  "            self.appendleft(x)",
  "    def pop(self):",
  "        if not self._items:",
  "            raise IndexError('pop from an empty deque')",
  "        self._changes += 1",
  "        return self._items.pop()",
  "    def popleft(self):",
  "        if not self._items:",
  "            raise IndexError('pop from an empty deque')",
  "        self._changes += 1",
  "        return self._items.pop(0)",
  "    def clear(self):",
  "        self._changes += 1",
  "        self._items.clear()",
  "    def copy(self):",
  "        return self.__class__(self._items, self._maxlen)",
  "    __copy__ = copy",
  "    def count(self, x):",
  "        return self._items.count(x)",
  "    def index(self, x, *args):",
  "        try:",
  "            return self._items.index(x, *args)",
  "        except ValueError:",
  "            raise ValueError('%r is not in deque' % (x,)) from None",
  "    def insert(self, i, x):",
  "        if self._maxlen is not None and len(self._items) >= self._maxlen:",
  "            raise IndexError('deque already at its maximum size')",
  "        self._changes += 1",
  "        self._items.insert(i, x)",
  "    def remove(self, x):",
  "        if x not in self._items:",
  "            raise ValueError('deque.remove(x): x not in deque')",
  "        self._changes += 1",
  "        self._items.remove(x)",
  "    def reverse(self):",
  "        self._changes += 1",
  "        self._items.reverse()",
  "    def rotate(self, n=1):",
  "        if self._items:",
  "            self._changes += 1",
  "            n %= len(self._items)",
  "            self._items = self._items[-n:] + self._items[:-n]",
  "    def __len__(self):",
  "        return len(self._items)",
  "    def __iter__(self):",
  "        return self._each(self._changes)",
  "    def _each(self, changes):",
  "        i = 0",
  "        while i < len(self._items):",
  "            if self._changes != changes:",
  "                raise RuntimeError('deque mutated during iteration')",
  "            yield self._items[i]",
  "            i += 1",
  "        if self._changes != changes:",
  "            raise RuntimeError('deque mutated during iteration')",
  "    def __reversed__(self):",
  "        return reversed(self._items)",
  "    def __contains__(self, x):",
  "        return x in self._items",
  "    def _place(self, i):",
  "        if not hasattr(i, '__index__'):",
  "            raise TypeError(\"sequence index must be integer, not '%s'\" % type(i).__name__)",
  "        if not -len(self._items) <= i < len(self._items):",
  "            raise IndexError('deque index out of range')",
  "        return i",
  "    def __getitem__(self, i):",
  "        return self._items[self._place(i)]",
  "    def __setitem__(self, i, x):",
  "        self._items[self._place(i)] = x",
  "    def __delitem__(self, i):",
  "        self._changes += 1",
  "        del self._items[self._place(i)]",
  "    def __repr__(self):",
  "        if any(x is self for x in self._items):",
  "            inner = '[%s]' % ', '.join('[...]' if x is self else repr(x) for x in self._items)",
  "        else:",
  "            inner = repr(self._items)",
  "        if self._maxlen is None:",
  "            return '%s(%s)' % (self.__class__.__name__, inner)",
  "        return '%s(%s, maxlen=%d)' % (self.__class__.__name__, inner, self._maxlen)",
  "    def __add__(self, other):",
  "        if not isinstance(other, deque):",
  "            raise TypeError('can only concatenate deque (not \"%s\") to deque' % type(other).__name__)",
  "        return self.__class__(self._items + other._items, self._maxlen)",
  "    def __iadd__(self, other):",
  "        self.extend(other)",
  "        return self",
  "    def __mul__(self, n):",
  "        return self.__class__(self._items * n, self._maxlen)",
  "    __rmul__ = __mul__",
  "    def __imul__(self, n):",
  "        items = self._items * n",
  "        self._items = []",
  "        self.extend(items)",
  "        return self",
  "    def __eq__(self, other):",
  "        return self._items == other._items if isinstance(other, deque) else NotImplemented",
  "    def __lt__(self, other):",
  "        return self._items < other._items if isinstance(other, deque) else NotImplemented",
  "    def __le__(self, other):",
  "        return self._items <= other._items if isinstance(other, deque) else NotImplemented",
  "    def __gt__(self, other):",
  "        return self._items > other._items if isinstance(other, deque) else NotImplemented",
  "    def __ge__(self, other):",
  "        return self._items >= other._items if isinstance(other, deque) else NotImplemented",
  "class ChainMap:",
  "    def __init__(self, *maps):",
  "        self.maps = list(maps) or [\x7b\x7d]",
  "    def __missing__(self, key):",
  "        raise KeyError(key)",
  "    def __getitem__(self, key):",
  "        for d in self.maps:",
  "            if key in d:",
  "                return d[key]",
  "        return self.__missing__(key)",
  "    def get(self, key, default=None):",
  "        return self[key] if key in self else default",
  "    def _merged(self):",
  "        d = \x7b\x7d",
  "        for m in reversed(self.maps):",
  "            d.update(dict.fromkeys(m))",
  "        return d",
  "    def __len__(self):",
  "        return len(self._merged())",
  "    def __iter__(self):",
  "        return iter(self._merged())",
  "    def keys(self):",
  "        return self._merged().keys()",
  "    def values(self):",
  "        return [self[k] for k in self]",
  "    def items(self):",
  "        return [(k, self[k]) for k in self]",
  "    def __contains__(self, key):",
  "        return any(key in m for m in self.maps)",
  "    def __bool__(self):",
  "        return any(self.maps)",
  "    def __eq__(self, other):",
  "        return dict(self.items()) == dict(other.items())",
  "    def __repr__(self):",
  "        return '%s(%s)' % (self.__class__.__name__, ', '.join(map(repr, self.maps)))",
  "    def new_child(self, m=None, **kwargs):",
  "        if m is None:",
  "            m = kwargs",
  "        elif kwargs:",
  "            m.update(kwargs)",
  "        return self.__class__(m, *self.maps)",
  "    @property",
  "    def parents(self):",
  "        return self.__class__(*self.maps[1:])",
  "    def copy(self):",
  "        return self.__class__(self.maps[0].copy(), *self.maps[1:])",
  "    def __setitem__(self, key, value):",
  "        self.maps[0][key] = value",
  "    def __delitem__(self, key):",
  "        try:",
  "            del self.maps[0][key]",
  "        except KeyError:",
  "            raise KeyError('Key not found in the first mapping: %r' % (key,))",
  "    def update(self, *args, **kwargs):",
  "        self.maps[0].update(*args, **kwargs)",
  "    def setdefault(self, key, default=None):",
  "        if key not in self:",
  "            self[key] = default",
  "        return self[key]",
  "    def pop(self, key, *args):",
  "        try:",
  "            return self.maps[0].pop(key, *args)",
  "        except KeyError:",
  "            raise KeyError('Key not found in the first mapping: %r' % (key,))",
  "class UserDict:",
  "    def __init__(self, dict=None, /, **kwargs):",
  "        self.data = \x7b\x7d",
  "        if dict is not None:",
  "            self.update(dict)",
  "        self.update(kwargs)",
  "    def __len__(self):",
  "        return len(self.data)",
  "    def __getitem__(self, key):",
  "        if key in self.data:",
  "            return self.data[key]",
  "        if hasattr(self.__class__, '__missing__'):",
  "            return self.__class__.__missing__(self, key)",
  "        raise KeyError(key)",
  "    def __setitem__(self, key, item):",
  "        self.data[key] = item",
  "    def __delitem__(self, key):",
  "        del self.data[key]",
  "    def __iter__(self):",
  "        return iter(self.data)",
  "    def __contains__(self, key):",
  "        return key in self.data",
  "    def __repr__(self):",
  "        return repr(self.data)",
  "    def __eq__(self, other):",
  "        return dict(self.items()) == dict(other.items())",
  "    def keys(self):",
  "        return self.data.keys()",
  "    def values(self):",
  "        return [self[k] for k in self]",
  "    def items(self):",
  "        return [(k, self[k]) for k in self]",
  "    def get(self, key, default=None):",
  "        return self[key] if key in self else default",
  "    def update(self, other=(), /, **kwargs):",
  "        for k, v in dict(other, **kwargs).items():",
  "            self[k] = v",
  "    def setdefault(self, key, default=None):",
  "        if key not in self:",
  "            self[key] = default",
  "        return self[key]",
  "    def pop(self, key, *default):",
  "        if key not in self and default:",
  "            return default[0]",
  "        value = self[key]",
  "        del self[key]",
  "        return value",
  "    def clear(self):",
  "        for k in list(self):",
  "            del self[k]",
  "    def copy(self):",
  "        return self.__class__(self.data)",
  "class UserList:",
  "    def __init__(self, initlist=None):",
  "        self.data = [] if initlist is None else list(initlist)",
  "    def __repr__(self):",
  "        return repr(self.data)",
  "    def __eq__(self, other):",
  "        return self.data == getattr(other, 'data', other)",
  "    def __lt__(self, other):",
  "        return self.data < getattr(other, 'data', other)",
  "    def __contains__(self, item):",
  "        return item in self.data",
  "    def __len__(self):",
  "        return len(self.data)",
  "    def __iter__(self):",
  "        return iter(self.data)",
  "    def __getitem__(self, i):",
  "        return self.__class__(self.data[i]) if isinstance(i, slice) else self.data[i]",
  "    def __setitem__(self, i, item):",
  "        self.data[i] = item",
  "    def __delitem__(self, i):",
  "        del self.data[i]",
  "    def __add__(self, other):",
  "        return self.__class__(self.data + list(other))",
  "    def __mul__(self, n):",
  "        return self.__class__(self.data * n)",
  "    def append(self, item):",
  "        self.data.append(item)",
  "    def insert(self, i, item):",
  "        self.data.insert(i, item)",
  "    def pop(self, i=-1):",
  "        return self.data.pop(i)",
  "    def remove(self, item):",
  "        self.data.remove(item)",
  "    def clear(self):",
  "        self.data.clear()",
  "    def copy(self):",
  "        return self.__class__(self)",
  "    def count(self, item):",
  "        return self.data.count(item)",
  "    def index(self, item, *args):",
  "        return self.data.index(item, *args)",
  "    def reverse(self):",
  "        self.data.reverse()",
  "    def sort(self, /, **kwds):",
  "        self.data.sort(**kwds)",
  "    def extend(self, other):",
  "        self.data.extend(other)",
  "class UserString(str):",
  "    @property",
  "    def data(self):",
  "        return str(self)"]

end PartitionTest.Shell.Objects.Library
