/-! Streams made from other ones, as a script of the language itself. -/
namespace PartitionTest.Shell.Objects.Library

def itertools : List String := [
  "class count:",
  "    def __init__(self, start=0, step=1):",
  "        self._next = start",
  "        self._step = step",
  "    def __iter__(self):",
  "        return self",
  "    def __next__(self):",
  "        n = self._next",
  "        self._next = n + self._step",
  "        return n",
  "    def __repr__(self):",
  "        if type(self._step) is int and self._step == 1:",
  "            return 'count(%r)' % (self._next,)",
  "        return 'count(%r, %r)' % (self._next, self._step)",
  "def cycle(iterable):",
  "    return _cycle(iter(iterable))",
  "def _cycle(items):",
  "    seen = []",
  "    for x in items:",
  "        yield x",
  "        seen.append(x)",
  "    while seen:",
  "        yield from seen",
  "class repeat:",
  "    def __init__(self, object, times=None):",
  "        self._object = object",
  "        self._times = None if times is None else max(times, 0)",
  "    def __iter__(self):",
  "        return self",
  "    def __next__(self):",
  "        if self._times is not None:",
  "            if self._times == 0:",
  "                raise StopIteration",
  "            self._times -= 1",
  "        return self._object",
  "    def __length_hint__(self):",
  "        if self._times is None:",
  "            raise TypeError('len() of unsized object')",
  "        return self._times",
  "    def __repr__(self):",
  "        if self._times is None:",
  "            return 'repeat(%r)' % (self._object,)",
  "        return 'repeat(%r, %r)' % (self._object, self._times)",
  "def accumulate(iterable, func=None, *, initial=None):",
  "    return _accumulate(iter(iterable), func, initial)",
  "def _accumulate(items, func, total):",
  "    if total is None:",
  "        for total in items:",
  "            break",
  "        else:",
  "            return",
  "    yield total",
  "    for x in items:",
  "        total = total + x if func is None else func(total, x)",
  "        yield total",
  "def chain(*iterables):",
  "    return _chained(iterables)",
  "def _chained(iterables):",
  "    for it in iterables:",
  "        yield from it",
  "chain.from_iterable = _chained",
  "def compress(data, selectors):",
  "    return (d for d, s in zip(data, selectors) if s)",
  "def dropwhile(predicate, iterable):",
  "    return _dropwhile(predicate, iter(iterable))",
  "def _dropwhile(predicate, items):",
  "    for x in items:",
  "        if not predicate(x):",
  "            yield x",
  "            break",
  "    yield from items",
  "def takewhile(predicate, iterable):",
  "    return _takewhile(predicate, iter(iterable))",
  "def _takewhile(predicate, items):",
  "    for x in items:",
  "        if not predicate(x):",
  "            break",
  "        yield x",
  "def filterfalse(predicate, iterable):",
  "    if predicate is None:",
  "        predicate = bool",
  "    return (x for x in iterable if not predicate(x))",
  "class groupby:",
  "    def __init__(self, iterable, key=None):",
  "        self._key = key",
  "        self._items = iter(iterable)",
  "        self._wanted = self._last = self._value = object()",
  "        self._group = None",
  "    def __iter__(self):",
  "        return self",
  "    def _step(self):",
  "        self._value = next(self._items)",
  "        self._last = self._value if self._key is None else self._key(self._value)",
  "    def __next__(self):",
  "        self._group = object()",
  "        while self._last == self._wanted:",
  "            self._step()",
  "        self._wanted = self._last",
  "        return self._last, self._members(self._wanted, self._group)",
  "    def _members(self, wanted, group):",
  "        while self._group is group and self._last == wanted:",
  "            yield self._value",
  "            try:",
  "                self._step()",
  "            except StopIteration:",
  "                return",
  "def islice(iterable, *args):",
  "    bounds = slice(*args)",
  "    for what, least in ((bounds.start, 0), (bounds.stop, 0)):",
  "        if what is not None and (not hasattr(what, '__index__') or what < least):",
  "            if len(args) == 1:",
  "                raise ValueError('Stop argument for islice() must be None or an integer: 0 <= x <= sys.maxsize.')",
  "            raise ValueError('Indices for islice() must be None or an integer: 0 <= x <= sys.maxsize.')",
  "    if bounds.step is not None and (not hasattr(bounds.step, '__index__') or bounds.step < 1):",
  "        raise ValueError('Step for islice() must be a positive integer or None.')",
  "    return _islice(iter(iterable), bounds.start or 0, bounds.stop, bounds.step or 1)",
  "def _islice(items, wanted, stop, step):",
  "    if stop is not None and stop <= wanted:",
  "        for _ in range(stop):",
  "            for x in items:",
  "                break",
  "        return",
  "    i = 0",
  "    for x in items:",
  "        if i == wanted:",
  "            yield x",
  "            wanted += step",
  "        i += 1",
  "        if stop is not None and i >= stop:",
  "            return",
  "def pairwise(iterable):",
  "    return _pairwise(iter(iterable))",
  "def _pairwise(items):",
  "    for a in items:",
  "        break",
  "    else:",
  "        return",
  "    for b in items:",
  "        yield a, b",
  "        a = b",
  "def product(*iterables, repeat=1):",
  "    pools = [tuple(it) for it in iterables] * repeat",
  "    return _product(pools)",
  "def _product(pools):",
  "    places = [0] * len(pools)",
  "    for pool in pools:",
  "        if not pool:",
  "            return",
  "    while True:",
  "        yield tuple([pool[i] for pool, i in zip(pools, places)])",
  "        k = len(pools) - 1",
  "        while k >= 0:",
  "            places[k] += 1",
  "            if places[k] < len(pools[k]):",
  "                break",
  "            places[k] = 0",
  "            k -= 1",
  "        if k < 0:",
  "            return",
  "def permutations(iterable, r=None):",
  "    pool = tuple(iterable)",
  "    r = len(pool) if r is None else r",
  "    if r < 0:",
  "        raise ValueError('r must be non-negative')",
  "    return _permutations(pool, r)",
  "def _permutations(pool, r):",
  "    n = len(pool)",
  "    if r > n:",
  "        return",
  "    places = list(range(n))",
  "    cycles = list(range(n, n - r, -1))",
  "    yield tuple([pool[i] for i in places[:r]])",
  "    while n:",
  "        for i in reversed(range(r)):",
  "            cycles[i] -= 1",
  "            if cycles[i] == 0:",
  "                places[i:] = places[i + 1:] + places[i:i + 1]",
  "                cycles[i] = n - i",
  "            else:",
  "                j = cycles[i]",
  "                places[i], places[-j] = places[-j], places[i]",
  "                yield tuple([pool[i] for i in places[:r]])",
  "                break",
  "        else:",
  "            return",
  "def combinations(iterable, r):",
  "    if r < 0:",
  "        raise ValueError('r must be non-negative')",
  "    return _combinations(tuple(iterable), r)",
  "def _combinations(pool, r):",
  "    n = len(pool)",
  "    if r > n:",
  "        return",
  "    places = list(range(r))",
  "    while True:",
  "        yield tuple([pool[i] for i in places])",
  "        for i in reversed(range(r)):",
  "            if places[i] != i + n - r:",
  "                break",
  "        else:",
  "            return",
  "        places[i] += 1",
  "        for j in range(i + 1, r):",
  "            places[j] = places[j - 1] + 1",
  "def combinations_with_replacement(iterable, r):",
  "    if r < 0:",
  "        raise ValueError('r must be non-negative')",
  "    return _selections(tuple(iterable), r)",
  "def _selections(pool, r):",
  "    n = len(pool)",
  "    if not n and r:",
  "        return",
  "    places = [0] * r",
  "    while True:",
  "        yield tuple([pool[i] for i in places])",
  "        for i in reversed(range(r)):",
  "            if places[i] != n - 1:",
  "                break",
  "        else:",
  "            return",
  "        places[i:] = [places[i] + 1] * (r - i)",
  "def starmap(function, iterable):",
  "    return (function(*args) for args in iterable)",
  "def tee(iterable, n=2):",
  "    if n < 0:",
  "        raise ValueError('n must be >= 0')",
  "    items = iter(iterable)",
  "    queues = [[] for _ in range(n)]",
  "    def ahead(queue):",
  "        while True:",
  "            if not queue:",
  "                try:",
  "                    x = next(items)",
  "                except StopIteration:",
  "                    return",
  "                for q in queues:",
  "                    q.append(x)",
  "            yield queue.pop(0)",
  "    return tuple([ahead(q) for q in queues])",
  "def zip_longest(*iterables, fillvalue=None):",
  "    return _zip_longest([iter(it) for it in iterables], fillvalue)",
  "def _zip_longest(streams, missing):",
  "    left = len(streams)",
  "    if not left:",
  "        return",
  "    streams = list(streams)",
  "    while True:",
  "        row = []",
  "        for i, it in enumerate(streams):",
  "            x = missing",
  "            if it is not None:",
  "                try:",
  "                    x = next(it)",
  "                except StopIteration:",
  "                    left -= 1",
  "                    if not left:",
  "                        return",
  "                    streams[i] = None",
  "            row.append(x)",
  "        yield tuple(row)"]

end PartitionTest.Shell.Objects.Library
