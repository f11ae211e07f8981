/-!
# Further mathematical functions

Mathematical functions that are put together from others, for numbers and for complex numbers, as
source of the library that every program finds.
-/

namespace KernelForge.Host.Standard

/-- The functions. -/
def mathematics : List String :=
  [
    "double sqrt(double); double fabs(double); double exp(double); double log(double); double sin(double); double cos(double);",
    "double sinh(double); double cosh(double); double atan2(double, double); double pow(double, double); double trunc(double);",
    "double floor(double); double copysign(double, double); double ldexp(double, int); double rint(double); double log10(double);",
    "double remainder(double, double); double fmod(double, double); double nextafter(double, double); double asin(double);",
    "float sqrtf(float); float expf(float); float logf(float); float truncf(float);",
    "static unsigned long bits(double x) \x7b union \x7b double d; unsigned long u; \x7d w = \x7bx\x7d; return w.u; \x7d",
    "static double number(unsigned long u) \x7b union \x7b unsigned long u; double d; \x7d w = \x7bu\x7d; return w.d; \x7d",
    "",
    "double frexp(double x, int *e)",
    "\x7b",
    "  unsigned long u = bits(x);",
    "  int k = u >> 52 & 2047;",
    "  *e = 0;",
    "  if (k == 2047 || x == 0) return x + x;",
    "  if (!k) \x7b u = bits(x * 0x1p54); k = (u >> 52 & 2047) - 54; \x7d",
    "  *e = k - 1022;",
    "  return number((u & 0x800fffffffffffffl) | 0x3fe0000000000000l);",
    "\x7d",
    "float frexpf(float x, int *e) \x7b return frexp(x, e); \x7d",
    "long double frexpl(long double x, int *e) \x7b return frexp(x, e); \x7d",
    "double modf(double x, double *w)",
    "\x7b",
    "  *w = trunc(x);",
    "  return copysign(x - x != 0 && x == x ? 0 : x - *w, x);",
    "\x7d",
    "float modff(float x, float *w) \x7b double d; float r = modf(x, &d); *w = d; return r; \x7d",
    "long double modfl(long double x, long double *w) \x7b double d; double r = modf(x, &d); *w = d; return r; \x7d",
    "double remquo(double x, double y, int *q)",
    "\x7b",
    "  double r = remainder(x, y);",
    "  double n = rint((x - r) / y);",
    "  int s = (bits(x) ^ bits(y)) >> 63;",
    "  *q = (int)fmod(fabs(n), 8);",
    "  if (s) *q = -*q;",
    "  return r;",
    "\x7d",
    "float remquof(float x, float y, int *q) \x7b return remquo(x, y, q); \x7d",
    "void sincos(double x, double *s, double *c) \x7b *s = sin(x); *c = cos(x); \x7d",
    "float sinf(float); float cosf(float);",
    "void sincosf(float x, float *s, float *c) \x7b *s = sinf(x); *c = cosf(x); \x7d",
    "double exp10(double x) \x7b return pow(10, x); \x7d",
    "float exp10f(float x) \x7b return pow(10, x); \x7d",
    "double pow10(double x) \x7b return pow(10, x); \x7d",
    "double nan(const char *s) \x7b return __builtin_nan(\"\"); \x7d",
    "float nanf(const char *s) \x7b return __builtin_nanf(\"\"); \x7d",
    "double nexttoward(double x, long double y) \x7b return nextafter(x, y); \x7d",
    "double scalb(double x, double y) \x7b return ldexp(x, y); \x7d",
    "double significand(double x) \x7b int e; double m = frexp(x, &e); return 2 * m; \x7d",
    "int finite(double x) \x7b return x - x == 0; \x7d",
    "int isinf(double x) \x7b return __builtin_isinf_sign(x); \x7d",
    "int isnan(double x) \x7b return x != x; \x7d",
    "",
    "static double longer(double a, double b)",
    "\x7b",
    "  double h = sqrt(a * a + b * b), t, u;",
    "  if (h <= 2 * b) \x7b",
    "    double d = h - b;",
    "    t = a * (2 * d - a);",
    "    u = (d - 2 * (a - b)) * d;",
    "  \x7d else \x7b",
    "    double d = h - a;",
    "    t = 2 * d * (a - 2 * b);",
    "    u = (4 * d - b) * b + d * d;",
    "  \x7d",
    "  return h - (t + u) / (2 * h);",
    "\x7d",
    "double hypot(double x, double y)",
    "\x7b",
    "  if (x - x != 0 || y - y != 0) \x7b",
    "    if ((x == x && x - x != 0) || (y == y && y - y != 0)) return __builtin_inf();",
    "    return x + y;",
    "  \x7d",
    "  x = fabs(x);",
    "  y = fabs(y);",
    "  double a = x < y ? y : x, b = x < y ? x : y;",
    "  if (a > 0x1p511) return b <= a * 0x1p-54 ? a + b : longer(a * 0x1p-600, b * 0x1p-600) / 0x1p-600;",
    "  if (b < 0x1p-459) return a >= b / 0x1p-54 ? a + b : longer(a / 0x1p-600, b / 0x1p-600) * 0x1p-600;",
    "  return b <= a * 0x1p-54 ? a + b : longer(a, b);",
    "\x7d",
    "float hypotf(float x, float y)",
    "\x7b",
    "  if (x - x != 0 || y - y != 0) return hypot(x, y);",
    "  return sqrt((double)x * x + (double)y * y);",
    "\x7d",
    "long double hypotl(long double x, long double y) \x7b return hypot(x, y); \x7d",
    "",
    "double expm1(double x)",
    "\x7b",
    "  double y, hi, lo, c = 0, t, e, hxs, hfx, r1;",
    "  int k;",
    "  unsigned hx = bits(x) >> 32 & 0x7fffffff;",
    "  int neg = bits(x) >> 63;",
    "  if (hx >= 0x4043687a) \x7b",
    "    if (hx >= 0x40862e42) \x7b",
    "      if (hx >= 0x7ff00000) return x != x ? x + x : neg ? -1.0 : x;",
    "      if (x > 7.09782712893383973096e+02) return __builtin_inf();",
    "    \x7d",
    "    if (neg) return -1.0;",
    "  \x7d",
    "  if (hx > 0x3fd62e42) \x7b",
    "    if (hx < 0x3ff0a2b2) \x7b",
    "      if (!neg) \x7b hi = x - 6.93147180369123816490e-01; lo = 1.90821492927058770002e-10; k = 1; \x7d",
    "      else \x7b hi = x + 6.93147180369123816490e-01; lo = -1.90821492927058770002e-10; k = -1; \x7d",
    "    \x7d else \x7b",
    "      k = 1.44269504088896338700e+00 * x + (neg ? -0.5 : 0.5);",
    "      t = k;",
    "      hi = x - t * 6.93147180369123816490e-01;",
    "      lo = t * 1.90821492927058770002e-10;",
    "    \x7d",
    "    x = hi - lo;",
    "    c = (hi - x) - lo;",
    "  \x7d else if (hx < 0x3c900000) return x;",
    "  else k = 0;",
    "  hfx = 0.5 * x;",
    "  hxs = x * hfx;",
    "  double h2 = hxs * hxs, h4 = h2 * h2;",
    "  double R1 = 1 + hxs * -3.33333333333331316428e-02;",
    "  double R2 = 1.58730158725481460165e-03 + hxs * -7.93650757867487942473e-05;",
    "  double R3 = 4.00821782732936239552e-06 + hxs * -2.01099218183624371326e-07;",
    "  r1 = R1 + h2 * R2 + h4 * R3;",
    "  t = 3.0 - r1 * hfx;",
    "  e = hxs * ((r1 - t) / (6.0 - x * t));",
    "  if (k == 0) return x - (x * e - hxs);",
    "  e = x * (e - c) - c;",
    "  e -= hxs;",
    "  if (k == -1) return 0.5 * (x - e) - 0.5;",
    "  if (k == 1) return x < -0.25 ? -2.0 * (e - (x + 0.5)) : 1.0 + 2.0 * (x - e);",
    "  if (k <= -2 || k > 56) \x7b",
    "    y = 1.0 - (e - x);",
    "    y = k == 1024 ? y * 2 * 0x1p1023 : ldexp(y, k);",
    "    return y - 1.0;",
    "  \x7d",
    "  if (k < 20) \x7b",
    "    t = 1 - ldexp(1, -k);",
    "    y = t - (e - x);",
    "  \x7d else \x7b",
    "    t = ldexp(1, -k);",
    "    y = x - (e + t);",
    "    y += 1;",
    "  \x7d",
    "  return ldexp(y, k);",
    "\x7d",
    "double log1p(double x)",
    "\x7b",
    "  double hfsq, f = 0, c = 0, s, z, R, u = 0;",
    "  int k = 1, hu = 0;",
    "  int hx = bits(x) >> 32, ax = hx & 0x7fffffff;",
    "  if (hx < 0x3fda827a) \x7b",
    "    if (ax >= 0x3ff00000) return x == -1.0 ? -__builtin_inf() : __builtin_nan(\"\");",
    "    if (ax < 0x3e200000) return ax < 0x3c900000 ? x : x - x * x * 0.5;",
    "    if (hx > 0 || hx <= (int)0xbfd2bec4) \x7b k = 0; f = x; hu = 1; \x7d",
    "  \x7d else if (hx >= 0x7ff00000) return x + x;",
    "  if (k != 0) \x7b",
    "    if (hx < 0x43400000) \x7b",
    "      u = 1.0 + x;",
    "      hu = bits(u) >> 32;",
    "      k = (hu >> 20) - 1023;",
    "      c = k > 0 ? 1.0 - (u - x) : x - (u - 1.0);",
    "      c /= u;",
    "    \x7d else \x7b",
    "      u = x;",
    "      hu = bits(u) >> 32;",
    "      k = (hu >> 20) - 1023;",
    "      c = 0;",
    "    \x7d",
    "    hu &= 0x000fffff;",
    "    if (hu < 0x6a09e) u = number((bits(u) & 0xffffffffl) | (unsigned long)(hu | 0x3ff00000) << 32);",
    "    else \x7b",
    "      k += 1;",
    "      u = number((bits(u) & 0xffffffffl) | (unsigned long)(hu | 0x3fe00000) << 32);",
    "      hu = (0x00100000 - hu) >> 2;",
    "    \x7d",
    "    f = u - 1.0;",
    "  \x7d",
    "  hfsq = 0.5 * f * f;",
    "  if (hu == 0) \x7b",
    "    if (f == 0) \x7b",
    "      if (k == 0) return 0;",
    "      c += k * 1.90821492927058770002e-10;",
    "      return k * 6.93147180369123816490e-01 + c;",
    "    \x7d",
    "    R = hfsq * (1.0 - 0.66666666666666666 * f);",
    "    if (k == 0) return f - R;",
    "    return k * 6.93147180369123816490e-01 - ((R - (k * 1.90821492927058770002e-10 + c)) - f);",
    "  \x7d",
    "  s = f / (2.0 + f);",
    "  z = s * s;",
    "  double R1 = z * 6.666666666666735130e-01, z2 = z * z;",
    "  double R2 = 3.999999999940941908e-01 + z * 2.857142874366239149e-01, z4 = z2 * z2;",
    "  double R3 = 2.222219843214978396e-01 + z * 1.818357216161805012e-01, z6 = z4 * z2;",
    "  double R4 = 1.531383769920937332e-01 + z * 1.479819860511658591e-01;",
    "  R = R1 + z2 * R2 + z4 * R3 + z6 * R4;",
    "  if (k == 0) return f - (hfsq - s * (hfsq + R));",
    "  return k * 6.93147180369123816490e-01 - ((hfsq - (s * (hfsq + R) + (k * 1.90821492927058770002e-10 + c))) - f);",
    "\x7d",
    "float expm1f(float x) \x7b return expm1(x); \x7d",
    "float log1pf(float x) \x7b return log1p(x); \x7d",
    "long double expm1l(long double x) \x7b return expm1(x); \x7d",
    "long double log1pl(long double x) \x7b return log1p(x); \x7d",
    "",
    "static const double pp[] = \x7b1.28379167095512558561e-01, -3.25042107247001499370e-01, -2.84817495755985104766e-02,",
    "  -5.77027029648944159157e-03, -2.37630166566501626084e-05\x7d;",
    "static const double qq[] = \x7b0, 3.97917223959155352819e-01, 6.50222499887672944485e-02, 5.08130628187576562776e-03,",
    "  1.32494738004321644526e-04, -3.96022827877536812320e-06\x7d;",
    "static const double pa[] = \x7b-2.36211856075265944077e-03, 4.14856118683748331666e-01, -3.72207876035701323847e-01,",
    "  3.18346619901161753674e-01, -1.10894694282396677476e-01, 3.54783043256182359371e-02, -2.16637559486879084300e-03\x7d;",
    "static const double qa[] = \x7b0, 1.06420880400844228286e-01, 5.40397917702171048937e-01, 7.18286544141962662868e-02,",
    "  1.26171219808761642112e-01, 1.36370839120290507362e-02, 1.19844998467991074170e-02\x7d;",
    "static const double ra[] = \x7b-9.86494403484714822705e-03, -6.93858572707181764372e-01, -1.05586262253232909814e+01,",
    "  -6.23753324503260060396e+01, -1.62396669462573470355e+02, -1.84605092906711035994e+02, -8.12874355063065934246e+01,",
    "  -9.81432934416914548592e+00\x7d;",
    "static const double sa[] = \x7b0, 1.96512716674392571292e+01, 1.37657754143519042600e+02, 4.34565877475229228821e+02,",
    "  6.45387271733267880336e+02, 4.29008140027567833386e+02, 1.08635005541779435134e+02, 6.57024977031928170135e+00,",
    "  -6.04244152148580987438e-02\x7d;",
    "static const double rb[] = \x7b-9.86494292470009928597e-03, -7.99283237680523006574e-01, -1.77579549177547519889e+01,",
    "  -1.60636384855821916062e+02, -6.37566443368389627722e+02, -1.02509513161107724954e+03, -4.83519191608651397019e+02\x7d;",
    "static const double sb[] = \x7b0, 3.03380607434824582924e+01, 3.25792512996573918826e+02, 1.53672958608443695994e+03,",
    "  3.19985821950859553908e+03, 2.55305040643316442583e+03, 4.74528541206955367215e+02, -2.24409524465858183362e+01\x7d;",
    "static double high(double x) \x7b return number(bits(x) & 0xffffffff00000000ul); \x7d",
    "static double tail(double ax, int near)",
    "\x7b",
    "  double s = 1 / (ax * ax), R, S, s2 = s * s, s4 = s2 * s2, s6 = s4 * s2, s8 = s4 * s4;",
    "  if (near) \x7b",
    "    R = ra[0] + s * ra[1] + s2 * (ra[2] + s * ra[3]) + s4 * (ra[4] + s * ra[5]) + s6 * (ra[6] + s * ra[7]);",
    "    S = 1 + s * sa[1] + s2 * (sa[2] + s * sa[3]) + s4 * (sa[4] + s * sa[5]) + s6 * (sa[6] + s * sa[7]) + s8 * sa[8];",
    "  \x7d else \x7b",
    "    R = rb[0] + s * rb[1] + s2 * (rb[2] + s * rb[3]) + s4 * (rb[4] + s * rb[5]) + s6 * rb[6];",
    "    S = 1 + s * sb[1] + s2 * (sb[2] + s * sb[3]) + s4 * (sb[4] + s * sb[5]) + s6 * (sb[6] + s * sb[7]);",
    "  \x7d",
    "  double z = high(ax);",
    "  return exp(-z * z - 0.5625) * exp((z - ax) * (z + ax) + R / S) / ax;",
    "\x7d",
    "static double small(double x)",
    "\x7b",
    "  double z = x * x, z2 = z * z, z4 = z2 * z2;",
    "  double r = pp[0] + z * pp[1] + z2 * (pp[2] + z * pp[3]) + z4 * pp[4];",
    "  double s = 1 + z * qq[1] + z2 * (qq[2] + z * qq[3]) + z4 * (qq[4] + z * qq[5]);",
    "  return r / s;",
    "\x7d",
    "static double middle(double ax)",
    "\x7b",
    "  double s = ax - 1, s2 = s * s, s4 = s2 * s2, s6 = s4 * s2;",
    "  double P = pa[0] + s * pa[1] + s2 * (pa[2] + s * pa[3]) + s4 * (pa[4] + s * pa[5]) + s6 * pa[6];",
    "  double Q = 1 + s * qa[1] + s2 * (qa[2] + s * qa[3]) + s4 * (qa[4] + s * qa[5]) + s6 * qa[6];",
    "  return P / Q;",
    "\x7d",
    "double erf(double x)",
    "\x7b",
    "  if (x != x) return x;",
    "  double ax = fabs(x);",
    "  if (ax < 0.84375) \x7b",
    "    if (ax < 0x1p-28) return x + 1.28379167095512586316e-01 * x;",
    "    return x + x * small(x);",
    "  \x7d",
    "  if (ax < 1.25) \x7b double y = 8.45062911510467529297e-01 + middle(ax); return x < 0 ? -y : y; \x7d",
    "  if (ax >= 6) return x < 0 ? -1 : 1;",
    "  double y = 1 - tail(ax, ax < 1 / 0.35);",
    "  return x < 0 ? -y : y;",
    "\x7d",
    "double erfc(double x)",
    "\x7b",
    "  if (x != x) return x;",
    "  double ax = fabs(x);",
    "  if (ax < 0.84375) \x7b",
    "    if (ax < 0x1p-56) return 1 - x;",
    "    double y = small(x);",
    "    if (x < 0.25) return 1 - (x + x * y);",
    "    return 0.5 - (x * y + (x - 0.5));",
    "  \x7d",
    "  if (ax < 1.25) return x < 0 ? 1 + (8.45062911510467529297e-01 + middle(ax)) : 1 - 8.45062911510467529297e-01 - middle(ax);",
    "  if (ax < 28) \x7b",
    "    if (x < -6) return 2;",
    "    double y = tail(ax, ax < 1 / 0.35);",
    "    return x < 0 ? 2 - y : y;",
    "  \x7d",
    "  return x < 0 ? 2 : 0;",
    "\x7d",
    "float erff(float x) \x7b return erf(x); \x7d",
    "float erfcf(float x) \x7b return erfc(x); \x7d",
    "",
    "static double series(double x)",
    "\x7b",
    "  static const double c[] = \x7b0.99999999999980993, 676.5203681218851, -1259.1392167224028, 771.32342877765313,",
    "    -176.61502916214059, 12.507343278686905, -0.13857109526572012, 9.9843695780195716e-6, 1.5056327351493116e-7\x7d;",
    "  double s = c[0];",
    "  for (int i = 1; i < 9; i++) s += c[i] / (x + i);",
    "  return s;",
    "\x7d",
    "double tgamma(double x)",
    "\x7b",
    "  if (x != x) return x;",
    "  if (x == 0) return copysign(__builtin_inf(), x);",
    "  if (x - x != 0) return x > 0 ? x : __builtin_nan(\"\");",
    "  if (x == floor(x)) \x7b",
    "    if (x < 0) return __builtin_nan(\"\");",
    "    if (x <= 171) \x7b long double r = 1; for (int i = 2; i < x; i++) r *= i; return r; \x7d",
    "    return __builtin_inf();",
    "  \x7d",
    "  if (x < 0.5) return 3.14159265358979323846 / (sin(3.14159265358979323846 * x) * tgamma(1 - x));",
    "  double t = x - 1 + 7.5;",
    "  double p = pow(t, (x - 0.5) / 2);",
    "  return 2.5066282746310005 * p * exp(-t) * p * series(x - 1);",
    "\x7d",
    "int signgam;",
    "double lgamma_r(double x, int *sign)",
    "\x7b",
    "  *sign = 1;",
    "  if (x - x != 0) return x * x;",
    "  if (x <= 0 && x == floor(x)) \x7b if (bits(x) >> 63 && x == 0) *sign = -1; return __builtin_inf(); \x7d",
    "  if (x == 1 || x == 2) return 0;",
    "  if (x < 0.5) \x7b",
    "    double s = sin(3.14159265358979323846 * x);",
    "    if (s < 0) *sign = -1;",
    "    int ignored;",
    "    return log(3.14159265358979323846 / fabs(s)) - lgamma_r(1 - x, &ignored);",
    "  \x7d",
    "  if (x <= 171 && x < 20) return log(tgamma(x));",
    "  double t = x - 1 + 7.5;",
    "  return 0.91893853320467274178 + (x - 0.5) * log(t) - t + log(series(x - 1));",
    "\x7d",
    "double lgamma(double x) \x7b return lgamma_r(x, &signgam); \x7d",
    "double gamma(double x) \x7b return lgamma(x); \x7d",
    "float tgammaf(float x) \x7b return tgamma(x); \x7d",
    "float lgammaf(float x) \x7b return lgamma(x); \x7d",
    "",
    "#define COMPLEX(T, S, R, SQRT) \\",
    "T cabs##S(_Complex T z) \x7b return R(__real__ z, __imag__ z); \x7d \\",
    "T carg##S(_Complex T z) \x7b return atan2(__imag__ z, __real__ z); \x7d \\",
    "T creal##S(_Complex T z) \x7b return __real__ z; \x7d \\",
    "T cimag##S(_Complex T z) \x7b return __imag__ z; \x7d \\",
    "_Complex T conj##S(_Complex T z) \x7b return ~z; \x7d \\",
    "_Complex T cproj##S(_Complex T z) \\",
    "\x7b \\",
    "  T x = __real__ z, y = __imag__ z; \\",
    "  if ((x == x && x - x != 0) || (y == y && y - y != 0)) return __builtin_complex((T)__builtin_inf(), (T)copysign(0, y)); \\",
    "  return z; \\",
    "\x7d \\",
    "_Complex T cexp##S(_Complex T z) \\",
    "\x7b \\",
    "  double e = exp(__real__ z), y = __imag__ z; \\",
    "  if (y == 0) return __builtin_complex((T)e, (T)y); \\",
    "  return __builtin_complex((T)(e * cos(y)), (T)(e * sin(y))); \\",
    "\x7d \\",
    "_Complex T clog##S(_Complex T z) \\",
    "\x7b \\",
    "  double x = fabs(__real__ z), y = fabs(__imag__ z), r, a = x < y ? y : x, b = x < y ? x : y; \\",
    "  if (a == 1) r = log1p(b * b) / 2; \\",
    "  else if (a > 1 && a < 2 && b < 1) \x7b double d = (a - 1) * (a + 1); if (b >= 0x1p-53) d += b * b; r = log1p(d) / 2; \x7d \\",
    "  else r = log(hypot(a, b)); \\",
    "  return __builtin_complex((T)r, (T)atan2(__imag__ z, __real__ z)); \\",
    "\x7d \\",
    "_Complex T csqrt##S(_Complex T z) \\",
    "\x7b \\",
    "  double x = __real__ z, y = __imag__ z, r, s; \\",
    "  if (y == 0) \x7b \\",
    "    if (x < 0) return __builtin_complex((T)0, (T)copysign(sqrt(-x), y)); \\",
    "    return __builtin_complex((T)fabs(sqrt(x)), (T)y); \\",
    "  \x7d \\",
    "  if (x == 0) \x7b r = sqrt(0.5 * fabs(y)); return __builtin_complex((T)r, (T)copysign(r, y)); \x7d \\",
    "  double d = hypot(x, y); \\",
    "  if (x > 0) \x7b r = sqrt(0.5 * (d + x)); s = 0.5 * (y / r); \x7d \\",
    "  else \x7b s = sqrt(0.5 * (d - x)); r = fabs(0.5 * (y / s)); \x7d \\",
    "  return __builtin_complex((T)r, (T)copysign(s, y)); \\",
    "\x7d \\",
    "_Complex T csinh##S(_Complex T z) \\",
    "\x7b \\",
    "  double x = __real__ z, y = __imag__ z; \\",
    "  return __builtin_complex((T)(sinh(x) * cos(y)), (T)(y == 0 ? y : cosh(x) * sin(y))); \\",
    "\x7d \\",
    "_Complex T ccosh##S(_Complex T z) \\",
    "\x7b \\",
    "  double x = __real__ z, y = __imag__ z; \\",
    "  return __builtin_complex((T)(cosh(x) * cos(y)), (T)(sinh(x) * sin(y))); \\",
    "\x7d \\",
    "_Complex T csin##S(_Complex T z) \\",
    "\x7b \\",
    "  double x = __real__ z, y = __imag__ z; \\",
    "  return __builtin_complex((T)(cosh(y) * sin(x)), (T)(sinh(y) * cos(x))); \\",
    "\x7d \\",
    "_Complex T ccos##S(_Complex T z) \\",
    "\x7b \\",
    "  double x = __real__ z, y = __imag__ z; \\",
    "  return __builtin_complex((T)(cosh(y) * cos(x)), (T)(-sinh(y) * sin(x))); \\",
    "\x7d \\",
    "_Complex T ctanh##S(_Complex T z) \\",
    "\x7b \\",
    "  double x = __real__ z, y = __imag__ z, s = sin(y), c = cos(y), sh = sinh(x), ch = cosh(x); \\",
    "  double d = fabs(sh) > fabs(c) * 0x1p-52 ? sh * sh + c * c : c * c; \\",
    "  return __builtin_complex((T)(sh * ch / d), (T)(s * c / d)); \\",
    "\x7d \\",
    "_Complex T ctan##S(_Complex T z) \\",
    "\x7b \\",
    "  double x = __real__ z, y = __imag__ z, s = sin(x), c = cos(x), sh = sinh(y), ch = cosh(y); \\",
    "  double d = fabs(sh) > fabs(c) * 0x1p-52 ? c * c + sh * sh : c * c; \\",
    "  return __builtin_complex((T)(s * c / d), (T)(sh * ch / d)); \\",
    "\x7d \\",
    "_Complex T cpow##S(_Complex T a, _Complex T b) \x7b return cexp##S(b * clog##S(a)); \x7d \\",
    "_Complex T casinh##S(_Complex T z) \x7b return clog##S(z + csqrt##S(z * z + 1)); \x7d \\",
    "_Complex T cacosh##S(_Complex T z) \x7b return clog##S(z + csqrt##S(z + 1) * csqrt##S(z - 1)); \x7d \\",
    "_Complex T catanh##S(_Complex T z) \x7b return (clog##S(1 + z) - clog##S(1 - z)) / 2; \x7d \\",
    "_Complex T casin##S(_Complex T z) \\",
    "\x7b \\",
    "  _Complex T w = casinh##S(__builtin_complex(-__imag__ z, __real__ z)); \\",
    "  return __builtin_complex(__imag__ w, -__real__ w); \\",
    "\x7d \\",
    "_Complex T cacos##S(_Complex T z) \\",
    "\x7b \\",
    "  _Complex T w = casin##S(z); \\",
    "  return __builtin_complex((T)(1.57079632679489661923 - __real__ w), -__imag__ w); \\",
    "\x7d \\",
    "_Complex T catan##S(_Complex T z) \\",
    "\x7b \\",
    "  _Complex T w = catanh##S(__builtin_complex(-__imag__ z, __real__ z)); \\",
    "  return __builtin_complex(__imag__ w, -__real__ w); \\",
    "\x7d",
    "COMPLEX(double, , hypot, sqrt)",
    "COMPLEX(float, f, hypotf, sqrtf)",
    "COMPLEX(long double, l, hypotl, sqrt)",
    "",
    "#define QUOTIENT(T, NAME, BIG, MIN, EPS) \\",
    "_Complex T NAME(T a, T b, T c, T d) \\",
    "\x7b \\",
    "  const T rbig = BIG / 2, rmin = MIN, rmin2 = EPS, scale = 1 / EPS, rmax2 = rbig * rmin2; \\",
    "  T ratio, denom, x, y; \\",
    "  if (fabs(c) < fabs(d)) \x7b \\",
    "    if (fabs(d) >= rbig) \x7b a /= 2; b /= 2; c /= 2; d /= 2; \x7d \\",
    "    if (fabs(d) < rmin2) \x7b a *= scale; b *= scale; c *= scale; d *= scale; \x7d \\",
    "    else if ((fabs(a) < rmin && fabs(b) < rmax2 && fabs(d) < rmax2) || (fabs(b) < rmin && fabs(a) < rmax2 && fabs(d) < rmax2)) \x7b \\",
    "      a *= scale; b *= scale; c *= scale; d *= scale; \\",
    "    \x7d \\",
    "    ratio = c / d; \\",
    "    denom = (c * ratio) + d; \\",
    "    if (fabs(ratio) > rmin) \x7b x = ((a * ratio) + b) / denom; y = ((b * ratio) - a) / denom; \x7d \\",
    "    else \x7b x = ((c * (a / d)) + b) / denom; y = ((c * (b / d)) - a) / denom; \x7d \\",
    "  \x7d else \x7b \\",
    "    if (fabs(c) >= rbig) \x7b a /= 2; b /= 2; c /= 2; d /= 2; \x7d \\",
    "    if (fabs(c) < rmin2) \x7b a *= scale; b *= scale; c *= scale; d *= scale; \x7d \\",
    "    else if ((fabs(a) < rmin && fabs(b) < rmax2 && fabs(c) < rmax2) || (fabs(b) < rmin && fabs(a) < rmax2 && fabs(c) < rmax2)) \x7b \\",
    "      a *= scale; b *= scale; c *= scale; d *= scale; \\",
    "    \x7d \\",
    "    ratio = d / c; \\",
    "    denom = (d * ratio) + c; \\",
    "    if (fabs(ratio) > rmin) \x7b x = ((b * ratio) + a) / denom; y = (b - (a * ratio)) / denom; \x7d \\",
    "    else \x7b x = (a + (d * (b / c))) / denom; y = (b - (d * (a / c))) / denom; \x7d \\",
    "  \x7d \\",
    "  return special(a, b, c, d, x, y); \\",
    "\x7d",
    "static _Complex double special(double a, double b, double c, double d, double x, double y)",
    "\x7b",
    "  if (x != x && y != y) \x7b",
    "    double inf = __builtin_inf();",
    "    int wide = (a == a && a - a != 0) || (b == b && b - b != 0), under = (c == c && c - c != 0) || (d == d && d - d != 0);",
    "    if (c == 0 && d == 0 && (a == a || b == b)) \x7b x = copysign(inf, c) * a; y = copysign(inf, c) * b; \x7d",
    "    else if (wide && c - c == 0 && d - d == 0) \x7b",
    "      a = copysign(a == a && a - a != 0, a);",
    "      b = copysign(b == b && b - b != 0, b);",
    "      x = inf * (a * c + b * d);",
    "      y = inf * (b * c - a * d);",
    "    \x7d else if (under && a - a == 0 && b - b == 0) \x7b",
    "      c = copysign(c == c && c - c != 0, c);",
    "      d = copysign(d == d && d - d != 0, d);",
    "      x = 0.0 * (a * c + b * d);",
    "      y = 0.0 * (b * c - a * d);",
    "    \x7d",
    "  \x7d",
    "  return __builtin_complex(x, y);",
    "\x7d",
    "QUOTIENT(double, __divdc3, 0x1.fffffffffffffp1023, 0x1p-1022, 0x1p-52)",
    "QUOTIENT(long double, __divxc3, 0x1.fffffffffffffp1023, 0x1p-1022, 0x1p-63)",
    "QUOTIENT(_Float128, __divtc3, 0x1.fffffffffffffp1023, 0x1p-1022, 0x1p-112)",
    "_Complex float __divsc3(float a, float b, float c, float d)",
    "\x7b",
    "  double e = (double)c * c + (double)d * d;",
    "  float x = ((double)a * c + (double)b * d) / e, y = ((double)b * c - (double)a * d) / e;",
    "  return special(a, b, c, d, x, y);",
    "\x7d"]

end KernelForge.Host.Standard
