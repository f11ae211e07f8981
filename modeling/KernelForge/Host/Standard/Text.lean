/-!
# Texts, sorting and numbers in texts

Functions on texts and characters, on integers and arrays, and those that write values as text, as
source of the library that every program finds.
-/

namespace KernelForge.Host.Standard

/-- Functions on texts and blocks of memory. -/
def texts : List String :=
  [
    "typedef unsigned long size_t;",
    "typedef int (*order_t)(const void *, const void *);",
    "typedef int (*order3_t)(const void *, const void *, void *);",
    "",
    "size_t strlen(const char *s) \x7b size_t n = 0; while (s[n]) n++; return n; \x7d",
    "size_t strnlen(const char *s, size_t m) \x7b size_t n = 0; while (n < m && s[n]) n++; return n; \x7d",
    "int memcmp(const void *a, const void *b, size_t n)",
    "\x7b",
    "  const unsigned char *p = a, *q = b;",
    "  for (size_t i = 0; i < n; i++) if (p[i] != q[i]) return p[i] - q[i];",
    "  return 0;",
    "\x7d",
    "int bcmp(const void *a, const void *b, size_t n) \x7b return memcmp(a, b, n); \x7d",
    "void *memchr(const void *a, int c, size_t n)",
    "\x7b",
    "  const unsigned char *p = a;",
    "  for (size_t i = 0; i < n; i++) if (p[i] == (unsigned char)c) return (void *)(p + i);",
    "  return 0;",
    "\x7d",
    "void *memrchr(const void *a, int c, size_t n)",
    "\x7b",
    "  const unsigned char *p = a;",
    "  while (n--) if (p[n] == (unsigned char)c) return (void *)(p + n);",
    "  return 0;",
    "\x7d",
    "void *rawmemchr(const void *a, int c) \x7b const unsigned char *p = a; while (*p != (unsigned char)c) p++; return (void *)p; \x7d",
    "void *memmem(const void *a, size_t n, const void *b, size_t m)",
    "\x7b",
    "  const char *p = a;",
    "  for (size_t i = 0; i + m <= n; i++) if (!memcmp(p + i, b, m)) return (void *)(p + i);",
    "  return 0;",
    "\x7d",
    "void *memmove(void *, const void *, size_t);",
    "void *memset(void *, int, size_t);",
    "void bzero(void *a, size_t n) \x7b memset(a, 0, n); \x7d",
    "void bcopy(const void *a, void *b, size_t n) \x7b memmove(b, a, n); \x7d",
    "int strcmp(const char *a, const char *b)",
    "\x7b",
    "  while (*a && *a == *b) \x7b a++; b++; \x7d",
    "  return *(unsigned char *)a - *(unsigned char *)b;",
    "\x7d",
    "int strncmp(const char *a, const char *b, size_t n)",
    "\x7b",
    "  for (; n; n--, a++, b++) \x7b",
    "    if (*a != *b) return *(unsigned char *)a - *(unsigned char *)b;",
    "    if (!*a) return 0;",
    "  \x7d",
    "  return 0;",
    "\x7d",
    "int strcoll(const char *a, const char *b) \x7b return strcmp(a, b); \x7d",
    "char *strcpy(char *d, const char *s) \x7b char *r = d; while ((*d++ = *s++)); return r; \x7d",
    "char *stpcpy(char *d, const char *s) \x7b while ((*d = *s)) \x7b d++; s++; \x7d return d; \x7d",
    "char *strncpy(char *d, const char *s, size_t n)",
    "\x7b",
    "  size_t i = 0;",
    "  for (; i < n && s[i]; i++) d[i] = s[i];",
    "  for (; i < n; i++) d[i] = 0;",
    "  return d;",
    "\x7d",
    "char *stpncpy(char *d, const char *s, size_t n)",
    "\x7b",
    "  size_t i = 0, k;",
    "  for (; i < n && s[i]; i++) d[i] = s[i];",
    "  k = i;",
    "  for (; i < n; i++) d[i] = 0;",
    "  return d + k;",
    "\x7d",
    "char *strcat(char *d, const char *s) \x7b strcpy(d + strlen(d), s); return d; \x7d",
    "char *strncat(char *d, const char *s, size_t n)",
    "\x7b",
    "  char *e = d + strlen(d);",
    "  size_t i = 0;",
    "  for (; i < n && s[i]; i++) e[i] = s[i];",
    "  e[i] = 0;",
    "  return d;",
    "\x7d",
    "char *strchr(const char *s, int c) \x7b for (;; s++) \x7b if (*s == (char)c) return (char *)s; if (!*s) return 0; \x7d \x7d",
    "char *strchrnul(const char *s, int c) \x7b while (*s && *s != (char)c) s++; return (char *)s; \x7d",
    "char *strrchr(const char *s, int c) \x7b char *r = 0; for (;; s++) \x7b if (*s == (char)c) r = (char *)s; if (!*s) return r; \x7d \x7d",
    "char *index(const char *s, int c) \x7b return strchr(s, c); \x7d",
    "char *rindex(const char *s, int c) \x7b return strrchr(s, c); \x7d",
    "char *strstr(const char *s, const char *t)",
    "\x7b",
    "  size_t n = strlen(t);",
    "  for (;; s++) \x7b if (!strncmp(s, t, n)) return (char *)s; if (!*s) return 0; \x7d",
    "\x7d",
    "size_t strspn(const char *s, const char *t) \x7b size_t n = 0; while (s[n] && strchr(t, s[n])) n++; return n; \x7d",
    "size_t strcspn(const char *s, const char *t) \x7b size_t n = 0; while (s[n] && !strchr(t, s[n])) n++; return n; \x7d",
    "char *strpbrk(const char *s, const char *t) \x7b s += strcspn(s, t); return *s ? (char *)s : 0; \x7d",
    "char *strtok_r(char *s, const char *t, char **keep)",
    "\x7b",
    "  if (!s) s = *keep;",
    "  s += strspn(s, t);",
    "  if (!*s) \x7b *keep = s; return 0; \x7d",
    "  char *e = s + strcspn(s, t);",
    "  if (*e) \x7b *e = 0; *keep = e + 1; \x7d else *keep = e;",
    "  return s;",
    "\x7d",
    "static char *token;",
    "char *strtok(char *s, const char *t) \x7b return strtok_r(s, t, &token); \x7d",
    "char *strsep(char **p, const char *t)",
    "\x7b",
    "  char *s = *p;",
    "  if (!s) return 0;",
    "  char *e = s + strcspn(s, t);",
    "  if (*e) \x7b *e = 0; *p = e + 1; \x7d else *p = 0;",
    "  return s;",
    "\x7d",
    "void *malloc(size_t);",
    "void free(void *);",
    "char *strdup(const char *s) \x7b char *d = malloc(strlen(s) + 1); return strcpy(d, s); \x7d",
    "char *strndup(const char *s, size_t n)",
    "\x7b",
    "  n = strnlen(s, n);",
    "  char *d = malloc(n + 1);",
    "  memmove(d, s, n);",
    "  d[n] = 0;",
    "  return d;",
    "\x7d",
    "char *strerror(int n) \x7b return n ? \"Unknown error\" : \"Success\"; \x7d"]

/-- Functions on characters. -/
def characters : List String :=
  [
    "int isdigit(int c) \x7b return c >= '0' && c <= '9' ? 2048 : 0; \x7d",
    "int isupper(int c) \x7b return c >= 'A' && c <= 'Z' ? 256 : 0; \x7d",
    "int islower(int c) \x7b return c >= 'a' && c <= 'z' ? 512 : 0; \x7d",
    "int isalpha(int c) \x7b return isupper(c) || islower(c) ? 1024 : 0; \x7d",
    "int isalnum(int c) \x7b return isalpha(c) || isdigit(c) ? 8 : 0; \x7d",
    "int isspace(int c) \x7b return c == ' ' || (c >= 9 && c <= 13) ? 8192 : 0; \x7d",
    "int isblank(int c) \x7b return c == ' ' || c == 9 ? 1 : 0; \x7d",
    "int iscntrl(int c) \x7b return (c >= 0 && c < 32) || c == 127 ? 2 : 0; \x7d",
    "int isprint(int c) \x7b return c >= 32 && c < 127 ? 16384 : 0; \x7d",
    "int isgraph(int c) \x7b return c > 32 && c < 127 ? 32768 : 0; \x7d",
    "int ispunct(int c) \x7b return isgraph(c) && !isalnum(c) ? 4 : 0; \x7d",
    "int isxdigit(int c) \x7b return isdigit(c) || (c >= 'a' && c <= 'f') || (c >= 'A' && c <= 'F') ? 4096 : 0; \x7d",
    "int isascii(int c) \x7b return c >= 0 && c < 128; \x7d",
    "int toascii(int c) \x7b return c & 127; \x7d",
    "int tolower(int c) \x7b return isupper(c) ? c + 32 : c; \x7d",
    "int toupper(int c) \x7b return islower(c) ? c - 32 : c; \x7d",
    "int strcasecmp(const char *a, const char *b)",
    "\x7b",
    "  while (*a && tolower(*(unsigned char *)a) == tolower(*(unsigned char *)b)) \x7b a++; b++; \x7d",
    "  return tolower(*(unsigned char *)a) - tolower(*(unsigned char *)b);",
    "\x7d",
    "int strncasecmp(const char *a, const char *b, size_t n)",
    "\x7b",
    "  for (; n; n--, a++, b++) \x7b",
    "    int d = tolower(*(unsigned char *)a) - tolower(*(unsigned char *)b);",
    "    if (d || !*a) return d;",
    "  \x7d",
    "  return 0;",
    "\x7d"]

/-- Functions on integers and arrays, and numbers read from texts. -/
def numbers : List String :=
  [
    "int abs(int n) \x7b return n < 0 ? -n : n; \x7d",
    "long labs(long n) \x7b return n < 0 ? -n : n; \x7d",
    "long long llabs(long long n) \x7b return n < 0 ? -n : n; \x7d",
    "long imaxabs(long n) \x7b return n < 0 ? -n : n; \x7d",
    "struct div_s \x7b int quot, rem; \x7d;",
    "struct ldiv_s \x7b long quot, rem; \x7d;",
    "struct div_s div(int a, int b) \x7b return (struct div_s)\x7ba / b, a % b\x7d; \x7d",
    "struct ldiv_s ldiv(long a, long b) \x7b return (struct ldiv_s)\x7ba / b, a % b\x7d; \x7d",
    "struct ldiv_s lldiv(long a, long b) \x7b return (struct ldiv_s)\x7ba / b, a % b\x7d; \x7d",
    "struct ldiv_s imaxdiv(long a, long b) \x7b return (struct ldiv_s)\x7ba / b, a % b\x7d; \x7d",
    "int ffs(int n) \x7b return __builtin_ffs(n); \x7d",
    "int ffsl(long n) \x7b return __builtin_ffsl(n); \x7d",
    "int ffsll(long long n) \x7b return __builtin_ffsll(n); \x7d",
    "",
    "static void merge(char *b, char *t, size_t n, size_t s, order3_t f, void *arg)",
    "\x7b",
    "  if (n < 2) return;",
    "  size_t h = n / 2;",
    "  char *p = b, *q = b + h * s, *o = t;",
    "  merge(p, t, h, s, f, arg);",
    "  merge(q, t, n - h, s, f, arg);",
    "  size_t i = h, j = n - h;",
    "  while (i && j) \x7b",
    "    if (f(p, q, arg) <= 0) \x7b memmove(o, p, s); p += s; i--; \x7d",
    "    else \x7b memmove(o, q, s); q += s; j--; \x7d",
    "    o += s;",
    "  \x7d",
    "  if (i) memmove(o, p, i * s);",
    "  memmove(b, t, (n - j) * s);",
    "\x7d",
    "void qsort_r(void *b, size_t n, size_t s, order3_t f, void *arg)",
    "\x7b",
    "  char *t = malloc(n * s + 1);",
    "  merge(b, t, n, s, f, arg);",
    "  free(t);",
    "\x7d",
    "void qsort(void *b, size_t n, size_t s, order_t f) \x7b qsort_r(b, n, s, (order3_t)(void *)f, 0); \x7d",
    "void *bsearch(const void *k, const void *b, size_t n, size_t s, order_t f)",
    "\x7b",
    "  size_t l = 0, u = n;",
    "  while (l < u) \x7b",
    "    size_t i = (l + u) / 2;",
    "    const char *p = (const char *)b + i * s;",
    "    int c = f(k, p);",
    "    if (c < 0) u = i; else if (c > 0) l = i + 1; else return (void *)p;",
    "  \x7d",
    "  return 0;",
    "\x7d",
    "",
    "static int sequence[34];",
    "static int position = -1;",
    "void srand(unsigned seed)",
    "\x7b",
    "  int r[344];",
    "  r[0] = seed ? seed : 1;",
    "  for (int i = 1; i < 31; i++) \x7b",
    "    long w = (16807l * r[i - 1]) % 2147483647;",
    "    r[i] = w < 0 ? w + 2147483647 : w;",
    "  \x7d",
    "  for (int i = 31; i < 34; i++) r[i] = r[i - 31];",
    "  for (int i = 34; i < 344; i++) r[i] = (unsigned)r[i - 31] + (unsigned)r[i - 3];",
    "  for (int i = 0; i < 31; i++) sequence[i] = r[313 + i];",
    "  position = 0;",
    "\x7d",
    "void srandom(unsigned seed) \x7b srand(seed); \x7d",
    "int rand(void)",
    "\x7b",
    "  if (position < 0) srand(1);",
    "  unsigned n = (unsigned)sequence[position] + (unsigned)sequence[(position + 28) % 31];",
    "  sequence[position] = n;",
    "  position = (position + 1) % 31;",
    "  return n >> 1;",
    "\x7d",
    "long random(void) \x7b return rand(); \x7d",
    "int rand_r(unsigned *seed)",
    "\x7b",
    "  unsigned next = *seed;",
    "  int r;",
    "  next = next * 1103515245 + 12345;",
    "  r = (unsigned)(next / 65536) % 2048;",
    "  next = next * 1103515245 + 12345;",
    "  r = r << 10 ^ (unsigned)(next / 65536) % 1024;",
    "  next = next * 1103515245 + 12345;",
    "  r = r << 10 ^ (unsigned)(next / 65536) % 1024;",
    "  *seed = next;",
    "  return r;",
    "\x7d",
    "static unsigned long state48 = 0x1234abcd330eul;",
    "void srand48(long s) \x7b state48 = ((unsigned long)(unsigned)s << 16) + 0x330e; \x7d",
    "static unsigned long next48(void) \x7b return state48 = (state48 * 0x5deece66dul + 11) & 0xfffffffffffful; \x7d",
    "double drand48(void) \x7b return next48() / 281474976710656.0; \x7d",
    "long lrand48(void) \x7b return next48() >> 17; \x7d",
    "long mrand48(void) \x7b return (int)(next48() >> 16); \x7d",
    "",
    "unsigned long strtoul(const char *s, char **e, int b);",
    "static unsigned long digits(const char *s, char **e, int b, int *neg, int *over)",
    "\x7b",
    "  const char *start = s;",
    "  while (isspace(*(unsigned char *)s)) s++;",
    "  *neg = 0;",
    "  *over = 0;",
    "  if (*s == '+' || *s == '-') *neg = *s++ == '-';",
    "  if ((b == 0 || b == 16) && s[0] == '0' && (s[1] == 'x' || s[1] == 'X') && isxdigit(s[2])) \x7b s += 2; b = 16; \x7d",
    "  else if (b == 0) b = *s == '0' ? 8 : 10;",
    "  unsigned long n = 0;",
    "  int any = 0;",
    "  for (;; s++) \x7b",
    "    int d = *s >= '0' && *s <= '9' ? *s - '0' : isalpha(*(unsigned char *)s) ? toupper(*s) - 'A' + 10 : 99;",
    "    if (d >= b) break;",
    "    any = 1;",
    "    unsigned __int128 w = (unsigned __int128)n * b + d;",
    "    if (w >> 64) *over = 1;",
    "    n = w;",
    "  \x7d",
    "  if (e) *e = (char *)(any ? s : start);",
    "  return n;",
    "\x7d",
    "long strtol(const char *s, char **e, int b)",
    "\x7b",
    "  int neg, over;",
    "  unsigned long n = digits(s, e, b, &neg, &over);",
    "  if (over || n > 0x7fffffffffffffffl + (unsigned long)neg) return neg ? -0x7fffffffffffffffl - 1 : 0x7fffffffffffffffl;",
    "  return neg ? -n : n;",
    "\x7d",
    "long long strtoll(const char *s, char **e, int b) \x7b return strtol(s, e, b); \x7d",
    "long strtoimax(const char *s, char **e, int b) \x7b return strtol(s, e, b); \x7d",
    "unsigned long strtoul(const char *s, char **e, int b)",
    "\x7b",
    "  int neg, over;",
    "  unsigned long n = digits(s, e, b, &neg, &over);",
    "  if (over) return -1ul;",
    "  return neg ? -n : n;",
    "\x7d",
    "unsigned long long strtoull(const char *s, char **e, int b) \x7b return strtoul(s, e, b); \x7d",
    "unsigned long strtoumax(const char *s, char **e, int b) \x7b return strtoul(s, e, b); \x7d",
    "int atoi(const char *s) \x7b return strtol(s, 0, 10); \x7d",
    "long atol(const char *s) \x7b return strtol(s, 0, 10); \x7d",
    "long long atoll(const char *s) \x7b return strtol(s, 0, 10); \x7d",
    "double __read_decimal(const char *s, unsigned long *length);",
    "double strtod(const char *s, char **e)",
    "\x7b",
    "  unsigned long n;",
    "  double v = __read_decimal(s, &n);",
    "  if (e) *e = (char *)s + n;",
    "  return v;",
    "\x7d",
    "float strtof(const char *s, char **e) \x7b return strtod(s, e); \x7d",
    "long double strtold(const char *s, char **e) \x7b return strtod(s, e); \x7d",
    "double atof(const char *s) \x7b return strtod(s, 0); \x7d"]

/-- Functions that write values as text. -/
def output : List String :=
  [
    "typedef __builtin_va_list va_list;",
    "int __write_number(char *out, int kind, int alt, int precision, unsigned long bits);",
    "struct sink \x7b char *out; size_t room, count; \x7d;",
    "static void put(struct sink *k, char c) \x7b if (k->count + 1 < k->room) k->out[k->count] = c; k->count++; \x7d",
    "static void pad(struct sink *k, char c, int n) \x7b while (n-- > 0) put(k, c); \x7d",
    "int vsnprintf(char *out, size_t room, const char *f, va_list ap)",
    "\x7b",
    "  struct sink k = \x7bout, room, 0\x7d;",
    "  for (; *f; f++) \x7b",
    "    if (*f != '%') \x7b put(&k, *f); continue; \x7d",
    "    int left = 0, plus = 0, space = 0, alt = 0, zero = 0, width = 0, prec = -1, size = 0;",
    "    for (f++;; f++) \x7b",
    "      if (*f == '-') left = 1;",
    "      else if (*f == '+') plus = 1;",
    "      else if (*f == ' ') space = 1;",
    "      else if (*f == '#') alt = 1;",
    "      else if (*f == '0') zero = 1;",
    "      else if (*f != '\\'') break;",
    "    \x7d",
    "    if (*f == '*') \x7b width = __builtin_va_arg(ap, int); if (width < 0) \x7b left = 1; width = -width; \x7d f++; \x7d",
    "    else while (isdigit(*f)) width = width * 10 + *f++ - '0';",
    "    if (*f == '.') \x7b",
    "      f++;",
    "      prec = 0;",
    "      if (*f == '*') \x7b prec = __builtin_va_arg(ap, int); f++; \x7d",
    "      else while (isdigit(*f)) prec = prec * 10 + *f++ - '0';",
    "    \x7d",
    "    for (;; f++) \x7b",
    "      if (*f == 'l' || *f == 'z' || *f == 't' || *f == 'j' || *f == 'q') size = 8;",
    "      else if (*f == 'h') size = size == 2 ? 1 : 2;",
    "      else if (*f == 'L') size = 16;",
    "      else break;",
    "    \x7d",
    "    char c = *f, text[512];",
    "    if (c == '%') \x7b put(&k, '%'); continue; \x7d",
    "    if (!c) break;",
    "    char sign = 0;",
    "    const char *body = text, *head = \"\";",
    "    int n = 0, numeric = 1;",
    "    if (c == 'd' || c == 'i' || c == 'u' || c == 'x' || c == 'X' || c == 'o' || c == 'p' || c == 'b') \x7b",
    "      unsigned long v;",
    "      if (c == 'd' || c == 'i') \x7b",
    "        long w = size == 8 ? __builtin_va_arg(ap, long) : __builtin_va_arg(ap, int);",
    "        if (size == 2) w = (short)w;",
    "        if (size == 1) w = (signed char)w;",
    "        sign = w < 0 ? '-' : plus ? '+' : space ? ' ' : 0;",
    "        v = w < 0 ? -(unsigned long)w : w;",
    "      \x7d else \x7b",
    "        v = size == 8 || c == 'p' ? __builtin_va_arg(ap, unsigned long) : __builtin_va_arg(ap, unsigned);",
    "        if (size == 2) v = (unsigned short)v;",
    "        if (size == 1) v = (unsigned char)v;",
    "      \x7d",
    "      int base = c == 'x' || c == 'X' || c == 'p' ? 16 : c == 'o' ? 8 : c == 'b' ? 2 : 10;",
    "      const char *names = c == 'X' ? \"0123456789ABCDEF\" : \"0123456789abcdef\";",
    "      char *e = text + 511;",
    "      *e = 0;",
    "      if (c == 'p' && !v) \x7b body = \"(nil)\"; n = 5; numeric = 0; \x7d",
    "      else \x7b",
    "        if ((alt || c == 'p') && base == 16 && v) head = c == 'X' ? \"0X\" : \"0x\";",
    "        for (unsigned long w = v; w; w /= base) *--e = names[w % base];",
    "        if (alt && base == 8 && *e != '0') *--e = '0';",
    "        if (prec < 0 && e == text + 511) *--e = '0';",
    "        while (text + 511 - e < prec) *--e = '0';",
    "        body = e;",
    "        n = text + 511 - e;",
    "        if (prec >= 0) zero = 0;",
    "      \x7d",
    "    \x7d else if (c == 'c') \x7b text[0] = __builtin_va_arg(ap, int); n = 1; numeric = 0; \x7d",
    "    else if (c == 's') \x7b",
    "      body = __builtin_va_arg(ap, char *);",
    "      if (!body) body = \"(null)\";",
    "      n = prec >= 0 ? strnlen(body, prec) : strlen(body);",
    "      numeric = 0;",
    "    \x7d else if (c == 'n') \x7b *__builtin_va_arg(ap, int *) = k.count; continue; \x7d",
    "    else \x7b",
    "      double v = size == 16 ? (double)__builtin_va_arg(ap, long double) : __builtin_va_arg(ap, double);",
    "      union \x7b double d; unsigned long u; \x7d w = \x7bv\x7d;",
    "      sign = w.u >> 63 ? '-' : plus ? '+' : space ? ' ' : 0;",
    "      n = __write_number(text, c, alt, prec, w.u & 0x7fffffffffffffffl);",
    "      if (v != v || v - v != 0) zero = 0;",
    "    \x7d",
    "    int total = n + (sign != 0) + strlen(head);",
    "    if (!left && !(zero && numeric)) pad(&k, ' ', width - total);",
    "    if (sign) put(&k, sign);",
    "    while (*head) put(&k, *head++);",
    "    if (!left && zero && numeric) pad(&k, '0', width - total);",
    "    for (int i = 0; i < n; i++) put(&k, body[i]);",
    "    if (left) pad(&k, ' ', width - total);",
    "  \x7d",
    "  if (room) out[k.count < room ? k.count : room - 1] = 0;",
    "  return k.count;",
    "\x7d",
    "int snprintf(char *out, size_t room, const char *f, ...)",
    "\x7b",
    "  va_list ap;",
    "  __builtin_va_start(ap, f);",
    "  return vsnprintf(out, room, f, ap);",
    "\x7d",
    "int sprintf(char *out, const char *f, ...)",
    "\x7b",
    "  va_list ap;",
    "  __builtin_va_start(ap, f);",
    "  return vsnprintf(out, 0x7fffffff, f, ap);",
    "\x7d",
    "int vsprintf(char *out, const char *f, va_list ap) \x7b return vsnprintf(out, 0x7fffffff, f, ap); \x7d",
    "",
    "int vprintf(const char *f, va_list ap) \x7b return vsnprintf(0, 0, f, ap); \x7d",
    "int vfprintf(void *o, const char *f, va_list ap) \x7b return vsnprintf(0, 0, f, ap); \x7d",
    "int printf(const char *f, ...)",
    "\x7b",
    "  va_list ap;",
    "  __builtin_va_start(ap, f);",
    "  return vsnprintf(0, 0, f, ap);",
    "\x7d",
    "int fprintf(void *o, const char *f, ...)",
    "\x7b",
    "  va_list ap;",
    "  __builtin_va_start(ap, f);",
    "  return vsnprintf(0, 0, f, ap);",
    "\x7d",
    "int putchar(int c) \x7b return (unsigned char)c; \x7d",
    "int putc(int c, void *o) \x7b return (unsigned char)c; \x7d",
    "int fputc(int c, void *o) \x7b return (unsigned char)c; \x7d",
    "int puts(const char *s) \x7b return strlen(s) + 1; \x7d",
    "int fputs(const char *s, void *o) \x7b return 1; \x7d",
    "size_t fwrite(const void *a, size_t s, size_t n, void *o) \x7b return s ? n : 0; \x7d",
    "int strverscmp(const char *a, const char *b) \x7b return strcmp(a, b); \x7d",
    "char *strcasestr(const char *s, const char *t)",
    "\x7b",
    "  size_t n = strlen(t);",
    "  for (;; s++) \x7b if (!strncasecmp(s, t, n)) return (char *)s; if (!*s) return 0; \x7d",
    "\x7d",
    "typedef int wchar_t;",
    "size_t wcslen(const wchar_t *s) \x7b size_t n = 0; while (s[n]) n++; return n; \x7d",
    "int wcscmp(const wchar_t *a, const wchar_t *b)",
    "\x7b",
    "  while (*a && *a == *b) \x7b a++; b++; \x7d",
    "  return *a < *b ? -1 : *a > *b;",
    "\x7d",
    "wchar_t *wcscpy(wchar_t *d, const wchar_t *s) \x7b wchar_t *r = d; while ((*d++ = *s++)); return r; \x7d",
    "wchar_t *wcschr(const wchar_t *s, wchar_t c) \x7b for (;; s++) \x7b if (*s == c) return (wchar_t *)s; if (!*s) return 0; \x7d \x7d"]

end KernelForge.Host.Standard
