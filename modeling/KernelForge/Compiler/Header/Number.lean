/-!
# Headers of numbers

The headers for integers of given width, limits, floating-point numbers, mathematical functions and
threads. The mathematical functions come in families with one shape of arguments, where the letter `F`
stands for a floating-point type; each family is declared for three types, the narrower and the wider
one with a letter behind the names, and under a reserved name too.
-/

namespace KernelForge.Compiler.Header

/-- Which parts of the headers the setting shows. -/
def features : List String :=
  ["#ifdef _GNU_SOURCE", "#define __USE_GNU 1", "#define __USE_MISC 1", "#define __USE_ISOC99 1",
    "#define __USE_ISOC11 1", "#else",
    "#if defined _DEFAULT_SOURCE || defined _BSD_SOURCE || defined _SVID_SOURCE",
    "#define __USE_MISC 1",
    "#elif !defined __STRICT_ANSI__ && !defined _ISOC99_SOURCE && !defined _ISOC11_SOURCE && \\",
    "!defined _ISOC2X_SOURCE && !defined _POSIX_SOURCE && !defined _POSIX_C_SOURCE && !defined \\",
    "_XOPEN_SOURCE", "#define __USE_MISC 1", "#elif defined _XOPEN_SOURCE", "#define __USE_MISC 1",
    "#endif",
    "#if defined __USE_MISC || defined _ISOC99_SOURCE || defined _ISOC11_SOURCE || defined \\",
    "_ISOC2X_SOURCE || __STDC_VERSION__ >= 199901L || _POSIX_C_SOURCE >= 200112L",
    "#define __USE_ISOC99 1", "#endif",
    "#if defined _ISOC11_SOURCE || defined _ISOC2X_SOURCE || __STDC_VERSION__ >= 201112L",
    "#define __USE_ISOC11 1", "#endif", "#endif", "#define __GLIBC__ 2",
    "#define __GLIBC_MINOR__ 39", "#define __GNU_LIBRARY__ 6",
    "#define __GLIBC_PREREQ(maj, min) ((2 << 16) + 39 >= ((maj) << 16) + (min))",
    "#define __glibc_has_include(header) __has_include(header)",
    "#define __THROW __attribute__ ((__nothrow__ __leaf__))",
    "#define __THROWNL __attribute__ ((__nothrow__))", "#define __BEGIN_DECLS",
    "#define __END_DECLS", "#define __P(args) args", "#define __PMT(args) args",
    "#define __CONCAT(x,y) x ## y", "#define __STRING(x) #x", "#define __ptr_t void *",
    "#define __inline_ inline"]

/-- The reserved names of the types of the system. -/
def basicTypes : List String :=
  ["#include <features.h>", "typedef unsigned char __u_char;", "typedef unsigned short __u_short;",
    "typedef unsigned int __u_int;", "typedef unsigned long __u_long;",
    "typedef signed char __int8_t;", "typedef unsigned char __uint8_t;",
    "typedef signed short __int16_t;", "typedef unsigned short __uint16_t;",
    "typedef signed int __int32_t;", "typedef unsigned int __uint32_t;",
    "typedef signed long __int64_t;", "typedef unsigned long __uint64_t;",
    "typedef __int8_t __int_least8_t;", "typedef __uint8_t __uint_least8_t;",
    "typedef __int16_t __int_least16_t;", "typedef __uint16_t __uint_least16_t;",
    "typedef __int32_t __int_least32_t;", "typedef __uint32_t __uint_least32_t;",
    "typedef __int64_t __int_least64_t;", "typedef __uint64_t __uint_least64_t;",
    "typedef long __quad_t;", "typedef unsigned long __u_quad_t;", "typedef long __intmax_t;",
    "typedef unsigned long __uintmax_t;", "typedef unsigned long __dev_t;",
    "typedef unsigned int __uid_t;", "typedef unsigned int __gid_t;",
    "typedef unsigned long __ino_t;", "typedef unsigned long __ino64_t;",
    "typedef unsigned int __mode_t;", "typedef unsigned long __nlink_t;", "typedef long __off_t;",
    "typedef long __off64_t;", "typedef int __pid_t;",
    "typedef struct \x7bint __val[2];\x7d __fsid_t;", "typedef long __clock_t;",
    "typedef unsigned long __rlim_t;", "typedef unsigned long __rlim64_t;",
    "typedef unsigned int __id_t;", "typedef long __time_t;", "typedef unsigned int __useconds_t;",
    "typedef long __suseconds_t;", "typedef long __suseconds64_t;", "typedef int __daddr_t;",
    "typedef int __key_t;", "typedef int __clockid_t;", "typedef void * __timer_t;",
    "typedef long __blksize_t;", "typedef long __blkcnt_t;", "typedef long __blkcnt64_t;",
    "typedef unsigned long __fsblkcnt_t;", "typedef unsigned long __fsblkcnt64_t;",
    "typedef unsigned long __fsfilcnt_t;", "typedef unsigned long __fsfilcnt64_t;",
    "typedef long __fsword_t;", "typedef long __ssize_t;", "typedef long __syscall_slong_t;",
    "typedef unsigned long __syscall_ulong_t;", "typedef __off64_t __loff_t;",
    "typedef char *__caddr_t;", "typedef long __intptr_t;", "typedef unsigned int __socklen_t;",
    "typedef int __sig_atomic_t;"]

/-- Integers of given width. -/
def integers : List String :=
  ["#include <bits/types.h>", "typedef __int8_t int8_t;", "typedef __int16_t int16_t;",
    "typedef __int32_t int32_t;", "typedef __int64_t int64_t;", "typedef __uint8_t uint8_t;",
    "typedef __uint16_t uint16_t;", "typedef __uint32_t uint32_t;", "typedef __uint64_t uint64_t;",
    "typedef __int_least8_t int_least8_t;", "typedef __int_least16_t int_least16_t;",
    "typedef __int_least32_t int_least32_t;", "typedef __int_least64_t int_least64_t;",
    "typedef __uint_least8_t uint_least8_t;", "typedef __uint_least16_t uint_least16_t;",
    "typedef __uint_least32_t uint_least32_t;", "typedef __uint_least64_t uint_least64_t;",
    "typedef signed char int_fast8_t;", "typedef long int_fast16_t;", "typedef long int_fast32_t;",
    "typedef long int_fast64_t;", "typedef unsigned char uint_fast8_t;",
    "typedef unsigned long uint_fast16_t;", "typedef unsigned long uint_fast32_t;",
    "typedef unsigned long uint_fast64_t;", "typedef long intptr_t;",
    "typedef unsigned long uintptr_t;", "typedef __intmax_t intmax_t;",
    "typedef __uintmax_t uintmax_t;", "#define INT16_C(c) c", "#define INT16_MAX (32767)",
    "#define INT16_MIN (-32767-1)", "#define INT32_C(c) c", "#define INT32_MAX (2147483647)",
    "#define INT32_MIN (-2147483647-1)", "#define INT64_C(c) c ## L",
    "#define INT64_MAX (__INT64_C(9223372036854775807))",
    "#define INT64_MIN (-__INT64_C(9223372036854775807)-1)", "#define INT8_C(c) c",
    "#define INT8_MAX (127)", "#define INT8_MIN (-128)", "#define INTMAX_C(c) c ## L",
    "#define INTMAX_MAX (__INT64_C(9223372036854775807))",
    "#define INTMAX_MIN (-__INT64_C(9223372036854775807)-1)",
    "#define INTPTR_MAX (9223372036854775807L)", "#define INTPTR_MIN (-9223372036854775807L-1)",
    "#define INT_FAST16_MAX (9223372036854775807L)",
    "#define INT_FAST16_MIN (-9223372036854775807L-1)",
    "#define INT_FAST32_MAX (9223372036854775807L)",
    "#define INT_FAST32_MIN (-9223372036854775807L-1)",
    "#define INT_FAST64_MAX (__INT64_C(9223372036854775807))",
    "#define INT_FAST64_MIN (-__INT64_C(9223372036854775807)-1)", "#define INT_FAST8_MAX (127)",
    "#define INT_FAST8_MIN (-128)", "#define INT_LEAST16_MAX (32767)",
    "#define INT_LEAST16_MIN (-32767-1)", "#define INT_LEAST32_MAX (2147483647)",
    "#define INT_LEAST32_MIN (-2147483647-1)",
    "#define INT_LEAST64_MAX (__INT64_C(9223372036854775807))",
    "#define INT_LEAST64_MIN (-__INT64_C(9223372036854775807)-1)", "#define INT_LEAST8_MAX (127)",
    "#define INT_LEAST8_MIN (-128)", "#define PTRDIFF_MAX (9223372036854775807L)",
    "#define PTRDIFF_MIN (-9223372036854775807L-1)", "#define SIG_ATOMIC_MAX (2147483647)",
    "#define SIG_ATOMIC_MIN (-2147483647-1)", "#define SIZE_MAX (18446744073709551615UL)",
    "#define UINT16_C(c) c", "#define UINT16_MAX (65535)", "#define UINT32_C(c) c ## U",
    "#define UINT32_MAX (4294967295U)", "#define UINT64_C(c) c ## UL",
    "#define UINT64_MAX (__UINT64_C(18446744073709551615))", "#define UINT8_C(c) c",
    "#define UINT8_MAX (255)", "#define UINTMAX_C(c) c ## UL",
    "#define UINTMAX_MAX (__UINT64_C(18446744073709551615))",
    "#define UINTPTR_MAX (18446744073709551615UL)",
    "#define UINT_FAST16_MAX (18446744073709551615UL)",
    "#define UINT_FAST32_MAX (18446744073709551615UL)",
    "#define UINT_FAST64_MAX (__UINT64_C(18446744073709551615))", "#define UINT_FAST8_MAX (255)",
    "#define UINT_LEAST16_MAX (65535)", "#define UINT_LEAST32_MAX (4294967295U)",
    "#define UINT_LEAST64_MAX (__UINT64_C(18446744073709551615))", "#define UINT_LEAST8_MAX (255)",
    "#define WCHAR_MAX __WCHAR_MAX", "#define WCHAR_MIN __WCHAR_MIN",
    "#define WINT_MAX (4294967295u)", "#define WINT_MIN (0u)"]

/-- Functions on the widest integers, and how integers are written. -/
def integerFormats : List String :=
  ["#include <stdint.h>", "typedef int __gwchar_t;",
    "typedef struct \x7blong quot; long rem;\x7d imaxdiv_t;", "intmax_t imaxabs(intmax_t);",
    "imaxdiv_t imaxdiv(intmax_t, intmax_t);", "intmax_t strtoimax(const char*, char**, int);",
    "uintmax_t strtoumax(const char*, char**, int);",
    "intmax_t wcstoimax(const __gwchar_t*, __gwchar_t**, int);",
    "uintmax_t wcstoumax(const __gwchar_t*, __gwchar_t**, int);", "#define PRIX16 \"X\"",
    "#define PRIX32 \"X\"", "#define PRIX64 __PRI64_PREFIX \"X\"", "#define PRIX8 \"X\"",
    "#define PRIXFAST16 __PRIPTR_PREFIX \"X\"", "#define PRIXFAST32 __PRIPTR_PREFIX \"X\"",
    "#define PRIXFAST64 __PRI64_PREFIX \"X\"", "#define PRIXFAST8 \"X\"",
    "#define PRIXLEAST16 \"X\"", "#define PRIXLEAST32 \"X\"",
    "#define PRIXLEAST64 __PRI64_PREFIX \"X\"", "#define PRIXLEAST8 \"X\"",
    "#define PRIXMAX __PRI64_PREFIX \"X\"", "#define PRIXPTR __PRIPTR_PREFIX \"X\"",
    "#define PRId16 \"d\"", "#define PRId32 \"d\"", "#define PRId64 __PRI64_PREFIX \"d\"",
    "#define PRId8 \"d\"", "#define PRIdFAST16 __PRIPTR_PREFIX \"d\"",
    "#define PRIdFAST32 __PRIPTR_PREFIX \"d\"", "#define PRIdFAST64 __PRI64_PREFIX \"d\"",
    "#define PRIdFAST8 \"d\"", "#define PRIdLEAST16 \"d\"", "#define PRIdLEAST32 \"d\"",
    "#define PRIdLEAST64 __PRI64_PREFIX \"d\"", "#define PRIdLEAST8 \"d\"",
    "#define PRIdMAX __PRI64_PREFIX \"d\"", "#define PRIdPTR __PRIPTR_PREFIX \"d\"",
    "#define PRIi16 \"i\"", "#define PRIi32 \"i\"", "#define PRIi64 __PRI64_PREFIX \"i\"",
    "#define PRIi8 \"i\"", "#define PRIiFAST16 __PRIPTR_PREFIX \"i\"",
    "#define PRIiFAST32 __PRIPTR_PREFIX \"i\"", "#define PRIiFAST64 __PRI64_PREFIX \"i\"",
    "#define PRIiFAST8 \"i\"", "#define PRIiLEAST16 \"i\"", "#define PRIiLEAST32 \"i\"",
    "#define PRIiLEAST64 __PRI64_PREFIX \"i\"", "#define PRIiLEAST8 \"i\"",
    "#define PRIiMAX __PRI64_PREFIX \"i\"", "#define PRIiPTR __PRIPTR_PREFIX \"i\"",
    "#define PRIo16 \"o\"", "#define PRIo32 \"o\"", "#define PRIo64 __PRI64_PREFIX \"o\"",
    "#define PRIo8 \"o\"", "#define PRIoFAST16 __PRIPTR_PREFIX \"o\"",
    "#define PRIoFAST32 __PRIPTR_PREFIX \"o\"", "#define PRIoFAST64 __PRI64_PREFIX \"o\"",
    "#define PRIoFAST8 \"o\"", "#define PRIoLEAST16 \"o\"", "#define PRIoLEAST32 \"o\"",
    "#define PRIoLEAST64 __PRI64_PREFIX \"o\"", "#define PRIoLEAST8 \"o\"",
    "#define PRIoMAX __PRI64_PREFIX \"o\"", "#define PRIoPTR __PRIPTR_PREFIX \"o\"",
    "#define PRIu16 \"u\"", "#define PRIu32 \"u\"", "#define PRIu64 __PRI64_PREFIX \"u\"",
    "#define PRIu8 \"u\"", "#define PRIuFAST16 __PRIPTR_PREFIX \"u\"",
    "#define PRIuFAST32 __PRIPTR_PREFIX \"u\"", "#define PRIuFAST64 __PRI64_PREFIX \"u\"",
    "#define PRIuFAST8 \"u\"", "#define PRIuLEAST16 \"u\"", "#define PRIuLEAST32 \"u\"",
    "#define PRIuLEAST64 __PRI64_PREFIX \"u\"", "#define PRIuLEAST8 \"u\"",
    "#define PRIuMAX __PRI64_PREFIX \"u\"", "#define PRIuPTR __PRIPTR_PREFIX \"u\"",
    "#define PRIx16 \"x\"", "#define PRIx32 \"x\"", "#define PRIx64 __PRI64_PREFIX \"x\"",
    "#define PRIx8 \"x\"", "#define PRIxFAST16 __PRIPTR_PREFIX \"x\"",
    "#define PRIxFAST32 __PRIPTR_PREFIX \"x\"", "#define PRIxFAST64 __PRI64_PREFIX \"x\"",
    "#define PRIxFAST8 \"x\"", "#define PRIxLEAST16 \"x\"", "#define PRIxLEAST32 \"x\"",
    "#define PRIxLEAST64 __PRI64_PREFIX \"x\"", "#define PRIxLEAST8 \"x\"",
    "#define PRIxMAX __PRI64_PREFIX \"x\"", "#define PRIxPTR __PRIPTR_PREFIX \"x\"",
    "#define SCNd16 \"hd\"", "#define SCNd32 \"d\"", "#define SCNd64 __PRI64_PREFIX \"d\"",
    "#define SCNd8 \"hhd\"", "#define SCNdFAST16 __PRIPTR_PREFIX \"d\"",
    "#define SCNdFAST32 __PRIPTR_PREFIX \"d\"", "#define SCNdFAST64 __PRI64_PREFIX \"d\"",
    "#define SCNdFAST8 \"hhd\"", "#define SCNdLEAST16 \"hd\"", "#define SCNdLEAST32 \"d\"",
    "#define SCNdLEAST64 __PRI64_PREFIX \"d\"", "#define SCNdLEAST8 \"hhd\"",
    "#define SCNdMAX __PRI64_PREFIX \"d\"", "#define SCNdPTR __PRIPTR_PREFIX \"d\"",
    "#define SCNi16 \"hi\"", "#define SCNi32 \"i\"", "#define SCNi64 __PRI64_PREFIX \"i\"",
    "#define SCNi8 \"hhi\"", "#define SCNiFAST16 __PRIPTR_PREFIX \"i\"",
    "#define SCNiFAST32 __PRIPTR_PREFIX \"i\"", "#define SCNiFAST64 __PRI64_PREFIX \"i\"",
    "#define SCNiFAST8 \"hhi\"", "#define SCNiLEAST16 \"hi\"", "#define SCNiLEAST32 \"i\"",
    "#define SCNiLEAST64 __PRI64_PREFIX \"i\"", "#define SCNiLEAST8 \"hhi\"",
    "#define SCNiMAX __PRI64_PREFIX \"i\"", "#define SCNiPTR __PRIPTR_PREFIX \"i\"",
    "#define SCNo16 \"ho\"", "#define SCNo32 \"o\"", "#define SCNo64 __PRI64_PREFIX \"o\"",
    "#define SCNo8 \"hho\"", "#define SCNoFAST16 __PRIPTR_PREFIX \"o\"",
    "#define SCNoFAST32 __PRIPTR_PREFIX \"o\"", "#define SCNoFAST64 __PRI64_PREFIX \"o\"",
    "#define SCNoFAST8 \"hho\"", "#define SCNoLEAST16 \"ho\"", "#define SCNoLEAST32 \"o\"",
    "#define SCNoLEAST64 __PRI64_PREFIX \"o\"", "#define SCNoLEAST8 \"hho\"",
    "#define SCNoMAX __PRI64_PREFIX \"o\"", "#define SCNoPTR __PRIPTR_PREFIX \"o\"",
    "#define SCNu16 \"hu\"", "#define SCNu32 \"u\"", "#define SCNu64 __PRI64_PREFIX \"u\"",
    "#define SCNu8 \"hhu\"", "#define SCNuFAST16 __PRIPTR_PREFIX \"u\"",
    "#define SCNuFAST32 __PRIPTR_PREFIX \"u\"", "#define SCNuFAST64 __PRI64_PREFIX \"u\"",
    "#define SCNuFAST8 \"hhu\"", "#define SCNuLEAST16 \"hu\"", "#define SCNuLEAST32 \"u\"",
    "#define SCNuLEAST64 __PRI64_PREFIX \"u\"", "#define SCNuLEAST8 \"hhu\"",
    "#define SCNuMAX __PRI64_PREFIX \"u\"", "#define SCNuPTR __PRIPTR_PREFIX \"u\"",
    "#define SCNx16 \"hx\"", "#define SCNx32 \"x\"", "#define SCNx64 __PRI64_PREFIX \"x\"",
    "#define SCNx8 \"hhx\"", "#define SCNxFAST16 __PRIPTR_PREFIX \"x\"",
    "#define SCNxFAST32 __PRIPTR_PREFIX \"x\"", "#define SCNxFAST64 __PRI64_PREFIX \"x\"",
    "#define SCNxFAST8 \"hhx\"", "#define SCNxLEAST16 \"hx\"", "#define SCNxLEAST32 \"x\"",
    "#define SCNxLEAST64 __PRI64_PREFIX \"x\"", "#define SCNxLEAST8 \"hhx\"",
    "#define SCNxMAX __PRI64_PREFIX \"x\"", "#define SCNxPTR __PRIPTR_PREFIX \"x\""]

/-- The limits of integers. -/
def limits : List String :=
  ["#include <features.h>", "#define CHAR_BIT __CHAR_BIT__", "#define CHAR_MAX SCHAR_MAX",
    "#define CHAR_MIN SCHAR_MIN", "#define INT_MAX __INT_MAX__", "#define INT_MIN (-INT_MAX - 1)",
    "#define LLONG_MAX __LONG_LONG_MAX__", "#define LLONG_MIN (-LLONG_MAX - 1LL)",
    "#define LONG_MAX __LONG_MAX__", "#define LONG_MIN (-LONG_MAX - 1L)", "#define MB_LEN_MAX 16",
    "#define SCHAR_MAX __SCHAR_MAX__", "#define SCHAR_MIN (-SCHAR_MAX - 1)",
    "#define SHRT_MAX __SHRT_MAX__", "#define SHRT_MIN (-SHRT_MAX - 1)",
    "#define UCHAR_MAX (SCHAR_MAX * 2 + 1)", "#define UINT_MAX (INT_MAX * 2U + 1U)",
    "#define ULLONG_MAX (LLONG_MAX * 2ULL + 1ULL)", "#define ULONG_MAX (LONG_MAX * 2UL + 1UL)",
    "#define USHRT_MAX (SHRT_MAX * 2 + 1)", "#ifdef __USE_MISC", "#define AIO_PRIO_DELTA_MAX 20",
    "#define BC_BASE_MAX _POSIX2_BC_BASE_MAX", "#define BC_DIM_MAX _POSIX2_BC_DIM_MAX",
    "#define BC_SCALE_MAX _POSIX2_BC_SCALE_MAX", "#define BC_STRING_MAX _POSIX2_BC_STRING_MAX",
    "#define CHARCLASS_NAME_MAX 2048", "#define COLL_WEIGHTS_MAX 255",
    "#define DELAYTIMER_MAX 2147483647", "#define EXPR_NEST_MAX _POSIX2_EXPR_NEST_MAX",
    "#define HOST_NAME_MAX 64", "#define LINE_MAX _POSIX2_LINE_MAX", "#define LOGIN_NAME_MAX 256",
    "#define MAX_CANON 255", "#define MAX_INPUT 255", "#define MQ_PRIO_MAX 32768",
    "#define NAME_MAX 255", "#define NGROUPS_MAX 65536", "#define PATH_MAX 4096",
    "#define PIPE_BUF 4096",
    "#define PTHREAD_DESTRUCTOR_ITERATIONS _POSIX_THREAD_DESTRUCTOR_ITERATIONS",
    "#define PTHREAD_KEYS_MAX 1024", "#define PTHREAD_STACK_MIN 16384",
    "#define RE_DUP_MAX (0x7fff)", "#define RTSIG_MAX 32", "#define SEM_VALUE_MAX (2147483647)",
    "#define SSIZE_MAX LONG_MAX", "#define TTY_NAME_MAX 32", "#define XATTR_LIST_MAX 65536",
    "#define XATTR_NAME_MAX 255", "#define XATTR_SIZE_MAX 65536", "#endif"]

/-- The limits of floating-point numbers. -/
def floatLimits : List String :=
  ["#define DBL_DIG __DBL_DIG__", "#define DBL_EPSILON __DBL_EPSILON__",
    "#define DBL_MANT_DIG __DBL_MANT_DIG__", "#define DBL_MAX __DBL_MAX__",
    "#define DBL_MAX_10_EXP __DBL_MAX_10_EXP__", "#define DBL_MAX_EXP __DBL_MAX_EXP__",
    "#define DBL_MIN __DBL_MIN__", "#define DBL_MIN_10_EXP __DBL_MIN_10_EXP__",
    "#define DBL_MIN_EXP __DBL_MIN_EXP__", "#define FLT_DIG __FLT_DIG__",
    "#define FLT_EPSILON __FLT_EPSILON__", "#define FLT_MANT_DIG __FLT_MANT_DIG__",
    "#define FLT_MAX __FLT_MAX__", "#define FLT_MAX_10_EXP __FLT_MAX_10_EXP__",
    "#define FLT_MAX_EXP __FLT_MAX_EXP__", "#define FLT_MIN __FLT_MIN__",
    "#define FLT_MIN_10_EXP __FLT_MIN_10_EXP__", "#define FLT_MIN_EXP __FLT_MIN_EXP__",
    "#define FLT_RADIX __FLT_RADIX__", "#define FLT_ROUNDS 1", "#define LDBL_DIG __LDBL_DIG__",
    "#define LDBL_EPSILON __LDBL_EPSILON__", "#define LDBL_MANT_DIG __LDBL_MANT_DIG__",
    "#define LDBL_MAX __LDBL_MAX__", "#define LDBL_MAX_10_EXP __LDBL_MAX_10_EXP__",
    "#define LDBL_MAX_EXP __LDBL_MAX_EXP__", "#define LDBL_MIN __LDBL_MIN__",
    "#define LDBL_MIN_10_EXP __LDBL_MIN_10_EXP__", "#define LDBL_MIN_EXP __LDBL_MIN_EXP__",
    "#if __STDC_VERSION__ >= 199901L || !defined __STRICT_ANSI__",
    "#define DECIMAL_DIG __DECIMAL_DIG__", "#define FLT_EVAL_METHOD __FLT_EVAL_METHOD__", "#endif",
    "#if __STDC_VERSION__ >= 201112L", "#define DBL_DECIMAL_DIG __DBL_DECIMAL_DIG__",
    "#define DBL_HAS_SUBNORM __DBL_HAS_DENORM__", "#define DBL_TRUE_MIN __DBL_DENORM_MIN__",
    "#define FLT_DECIMAL_DIG __FLT_DECIMAL_DIG__", "#define FLT_HAS_SUBNORM __FLT_HAS_DENORM__",
    "#define FLT_TRUE_MIN __FLT_DENORM_MIN__", "#define LDBL_DECIMAL_DIG __LDBL_DECIMAL_DIG__",
    "#define LDBL_HAS_SUBNORM __LDBL_HAS_DENORM__", "#define LDBL_TRUE_MIN __LDBL_DENORM_MIN__",
    "#endif"]

/-- Common types. -/
def definitions : List String :=
  ["typedef __SIZE_TYPE__ size_t;", "typedef __PTRDIFF_TYPE__ ptrdiff_t;",
    "typedef __WCHAR_TYPE__ wchar_t;", "#undef NULL", "#define NULL ((void *)0)",
    "#define offsetof(TYPE, MEMBER) __builtin_offsetof (TYPE, MEMBER)",
    "#if __STDC_VERSION__ >= 201112L", "",
    "typedef struct \x7blong long __max_align_ll __attribute__((__aligned__(__alignof__(long long))));",
    "long double __max_align_ld __attribute__((__aligned__(__alignof__(long double))));",
    "\x7d max_align_t;", "#endif"]

/-- Arguments beyond the declared ones. -/
def arguments : List String :=
  ["typedef __builtin_va_list __gnuc_va_list;", "typedef __gnuc_va_list va_list;",
    "#define va_start(v,l) __builtin_va_start(v,l)", "#define va_end(v) __builtin_va_end(v)",
    "#define va_arg(v,l) __builtin_va_arg(v,l)",
    "#if !defined(__STRICT_ANSI__) || __STDC_VERSION__ + 0 >= 199900L",
    "#define va_copy(d,s) __builtin_va_copy(d,s)", "#endif",
    "#define __va_copy(d,s) __builtin_va_copy(d,s)"]

/-- Operators as words. -/
def words : List String :=
  ["#define and &&", "#define and_eq &=", "#define bitand &", "#define bitor |", "#define compl ~",
    "#define not !", "#define not_eq !=", "#define or_eq |=", "#define xor ^", "#define xor_eq ^=",
    "#define or ||"]

/-- A family of functions with one shape: its result and parameters. -/
structure Family where
  result : String
  params : String
  names : List String

/-- Puts a type in the place of the letter `F`. -/
def atType (type shape : String) : String := type.intercalate (shape.splitOn "F")

/-- The declaration of a family for a type, with a letter behind the names. -/
def Family.declaration (family : Family) (type letter : String) : String :=
  let params := "(" ++ atType type family.params ++ ")"
  let one (name : String) : String := name ++ letter ++ params ++ ", __" ++ name ++ letter ++ params
  atType type family.result ++ " " ++ ", ".intercalate (family.names.map one) ++ ";"

/-- The declarations of a family for the narrower and the wider type. -/
def Family.others (family : Family) : List String :=
  [family.declaration "float" "f", family.declaration "long double" "l"]

/-- The declarations of a family for all types. -/
def Family.all (family : Family) : List String := family.declaration "double" "" :: family.others

/-- The mathematical functions of the first standard. -/
def oldFamilies : List Family :=
  [⟨"F", "F", ["acos", "asin", "atan", "cos", "sin", "tan", "cosh", "sinh", "tanh", "exp",
     "log", "log10", "sqrt", "ceil", "fabs", "floor"]⟩,
   ⟨"F", "F, F", ["atan2", "pow", "fmod"]⟩,
   ⟨"F", "F, int *", ["frexp"]⟩,
   ⟨"F", "F, int", ["ldexp"]⟩,
   ⟨"F", "F, F *", ["modf"]⟩]

/-- The functions that later standards add. -/
def newFamilies : List Family :=
  [⟨"F", "F", ["acosh", "asinh", "atanh", "expm1", "log1p", "logb", "exp2", "log2", "cbrt",
     "erf", "erfc", "lgamma", "tgamma", "rint", "nearbyint", "round", "trunc"]⟩,
   ⟨"F", "F, F", ["hypot", "copysign", "nextafter", "remainder", "fdim", "fmax", "fmin"]⟩,
   ⟨"F", "const char *", ["nan"]⟩,
   ⟨"F", "F, long double", ["nexttoward"]⟩,
   ⟨"F", "F, int", ["scalbn"]⟩,
   ⟨"int", "F", ["ilogb"]⟩,
   ⟨"F", "F, long", ["scalbln"]⟩,
   ⟨"F", "F, F, int *", ["remquo"]⟩,
   ⟨"long", "F", ["lrint", "lround"]⟩,
   ⟨"long long", "F", ["llrint", "llround"]⟩,
   ⟨"F", "F, F, F", ["fma"]⟩]

/-- The functions that are usual besides. -/
def commonFamilies : List Family :=
  [⟨"int", "F", ["isinf", "finite", "isnan"]⟩,
   ⟨"F", "F, F", ["drem", "scalb"]⟩,
   ⟨"F", "F", ["significand", "j0", "j1", "y0", "y1", "gamma"]⟩,
   ⟨"F", "int, F", ["jn", "yn"]⟩]

/-- The functions that have to be asked for. -/
def furtherFamilies : List Family :=
  [⟨"void", "F, F *, F *", ["sincos"]⟩,
   ⟨"F", "F", ["exp10", "nextdown", "nextup", "roundeven"]⟩,
   ⟨"long", "F", ["llogb"]⟩,
   ⟨"F", "F, F", ["fmaxmag", "fminmag", "fmaximum", "fminimum", "fmaximum_num", "fminimum_num",
     "fmaximum_mag", "fminimum_mag", "fmaximum_mag_num", "fminimum_mag_num"]⟩,
   ⟨"__intmax_t", "F, int, unsigned int", ["fromfp", "fromfpx"]⟩,
   ⟨"__uintmax_t", "F, int, unsigned int", ["ufromfp", "ufromfpx"]⟩]

/-- How numbers are classified, and special values. -/
def numberClasses : List String :=
  ["#define FP_ILOGB0 (-2147483647 - 1)", "#define FP_ILOGBNAN (-2147483647 - 1)",
    "#define FP_INFINITE 1", "#define FP_NAN 0", "#define FP_NORMAL 4", "#define FP_SUBNORMAL 3",
    "#define FP_ZERO 2", "#define HUGE_VALF (__builtin_huge_valf ())",
    "#define HUGE_VALL (__builtin_huge_vall ())", "#define INFINITY (__builtin_inff ())",
    "#define MATH_ERREXCEPT 2", "#define MATH_ERRNO 1", "#define NAN (__builtin_nanf (\"\"))",
    "#define fpclassify(x) __builtin_fpclassify (FP_NAN, FP_INFINITE, FP_NORMAL, FP_SUBNORMAL, \\",
    "FP_ZERO, x)", "#define isfinite(x) __builtin_isfinite (x)",
    "#define isgreater(x,y) __builtin_isgreater(x, y)",
    "#define isgreaterequal(x,y) __builtin_isgreaterequal(x, y)",
    "#define isinf(x) __builtin_isinf_sign (x)", "#define isless(x,y) __builtin_isless(x, y)",
    "#define islessequal(x,y) __builtin_islessequal(x, y)",
    "#define islessgreater(x,y) __builtin_islessgreater(x, y)",
    "#define isnan(x) __builtin_isnan (x)", "#define isnormal(x) __builtin_isnormal (x)",
    "#define isunordered(x,y) __builtin_isunordered(x, y)",
    "#define math_errhandling (MATH_ERRNO | MATH_ERREXCEPT)",
    "#define signbit(x) __builtin_signbit (x)"]

/-- Mathematical constants. -/
def numberConstants : List String :=
  ["#define M_1_PI 0.31830988618379067154", "#define M_2_PI 0.63661977236758134308",
    "#define M_2_SQRTPI 1.12837916709551257390", "#define M_E 2.7182818284590452354",
    "#define M_LN10 2.30258509299404568402", "#define M_LN2 0.69314718055994530942",
    "#define M_LOG10E 0.43429448190325182765", "#define M_LOG2E 1.4426950408889634074",
    "#define M_PI 3.14159265358979323846", "#define M_PI_2 1.57079632679489661923",
    "#define M_PI_4 0.78539816339744830962", "#define M_SQRT1_2 0.70710678118654752440",
    "#define M_SQRT2 1.41421356237309504880"]

/-- The mathematical functions. -/
def mathematics : List String :=
  ["#include <bits/types.h>", "#define HUGE_VAL (__builtin_huge_val ())",
      "int __fpclassify(double), __signbit(double), __iseqsig(double, double);",
      "int __issignaling(double), __isinf(double), __finite(double), __isnan(double);"] ++
    oldFamilies.map (Family.declaration · "double" "") ++ ["#ifdef __USE_ISOC99",
      "typedef float float_t;", "typedef double double_t;"] ++
    oldFamilies.flatMap Family.others ++ newFamilies.flatMap Family.all ++
    ["#endif", "#ifdef __USE_MISC"] ++ commonFamilies.flatMap Family.all ++
    ["#endif", "#ifdef __USE_ISOC99"] ++ numberClasses ++ ["#endif", "#ifdef __USE_MISC"] ++
    ["extern int signgam;", "double lgamma_r(double, int *); float lgammaf_r(float, int *);",
      "long double lgammal_r(long double, int *);"] ++ numberConstants ++ ["#endif", "#ifdef __USE_GNU"] ++
    furtherFamilies.flatMap Family.all ++ ["#endif"]

/-- Functions of complex numbers to complex numbers, and to their parts. -/
def complexFamilies : List Family :=
  [⟨"F _Complex", "F _Complex", ["cacos", "casin", "catan", "ccos", "csin", "ctan", "cacosh", "casinh",
      "catanh", "ccosh", "csinh", "ctanh", "cexp", "clog", "csqrt", "conj", "cproj"]⟩,
    ⟨"F _Complex", "F _Complex, F _Complex", ["cpow"]⟩,
    ⟨"F", "F _Complex", ["cabs", "carg", "cimag", "creal"]⟩]

/-- Complex numbers. -/
def complexNumbers : List String :=
  ["#include <features.h>", "#define complex _Complex", "#define _Complex_I (__extension__ 1.0iF)",
      "#undef I", "#define I _Complex_I"] ++
    complexFamilies.flatMap Family.all ++
    ["#ifdef __USE_ISOC11",
      "#define CMPLX(x, y) __builtin_complex ((double) (x), (double) (y))",
      "#define CMPLXF(x, y) __builtin_complex ((float) (x), (float) (y))",
      "#define CMPLXL(x, y) __builtin_complex ((long double) (x), (long double) (y))", "#endif"]

/-- A name that stands for the function of a family that fits the type of its argument. -/
def generic (hasComplex : Bool) (params : List String) (chosen : List String) (name : String) :
    String :=
  let args := "(" ++ ", ".intercalate params ++ ")"
  let kind := " + ".intercalate (chosen.map fun p =>
    "_Generic((" ++ p ++ "), float: 0.0f, float _Complex: 0.0f * 1.0iF, default: (" ++ p ++ ") * 0 + 0.0)")
  let pick (type function : String) : String := type ++ ": " ++ function ++ ", "
  let complexName := match name with
    | "fabs" => "cabs"
    | _ => "c" ++ name
  "#define " ++ name ++ args ++ " _Generic(" ++ kind ++ ", " ++ pick "float" (name ++ "f") ++
    pick "long double" (name ++ "l") ++
    (if hasComplex then
      pick "float _Complex" (complexName ++ "f") ++ pick "double _Complex" complexName ++
        pick "long double _Complex" (complexName ++ "l")
    else "") ++ "default: " ++ name ++ ")" ++ args

/-- Names of mathematical functions for all types. -/
def genericMathematics : List String :=
  ["#include <math.h>", "#include <complex.h>"] ++
    ["acos", "asin", "atan", "cos", "sin", "tan", "acosh", "asinh", "atanh", "cosh", "sinh", "tanh",
      "exp", "log", "sqrt", "fabs"].map (generic true ["x"] ["(x)"]) ++
    [generic true ["x", "y"] ["(x)", "(y)"] "pow"] ++
    ["cbrt", "ceil", "erf", "erfc", "exp2", "expm1", "floor", "ilogb", "lgamma", "llrint", "llround",
      "log10", "log1p", "log2", "logb", "lrint", "lround", "nearbyint", "rint", "round", "tgamma",
      "trunc"].map (generic false ["x"] ["(x)"]) ++
    ["atan2", "copysign", "fdim", "fmax", "fmin", "fmod", "hypot", "nextafter", "remainder"].map
      (generic false ["x", "y"] ["(x)", "(y)"]) ++
    ["frexp", "ldexp", "scalbn", "scalbln", "nexttoward"].map (generic false ["x", "y"] ["(x)"]) ++
    [generic false ["x", "y", "z"] ["(x)", "(y)", "(z)"] "fma",
      generic false ["x", "y", "z"] ["(x)", "(y)"] "remquo"]

/-- Rounding and exceptions. -/
def floatSurroundings : List String :=
  ["#include <features.h>",
    "enum\x7bFE_INVALID = 0x01,__FE_DENORM = 0x02,FE_DIVBYZERO = 0x04,FE_OVERFLOW = 0x08,",
    "FE_UNDERFLOW = 0x10,FE_INEXACT = 0x20\x7d;",
    "enum\x7bFE_TONEAREST = 0,FE_DOWNWARD = 0x400,FE_UPWARD = 0x800,FE_TOWARDZERO = 0xc00\x7d;",
    "typedef unsigned short fexcept_t;",
    "typedef struct\x7bunsigned short __control_word;unsigned short __glibc_reserved1;",
    "unsigned short __status_word;unsigned short __glibc_reserved2;unsigned short __tags;",
    "unsigned short __glibc_reserved3;unsigned int __eip;unsigned short __cs_selector;",
    "unsigned int __opcode:11;unsigned int __glibc_reserved4:5;unsigned int __data_offset;",
    "unsigned short __data_selector;unsigned short __glibc_reserved5;unsigned int __mxcsr;",
    "\x7dfenv_t;",
    "typedef struct\x7bunsigned short __control_word;unsigned short __glibc_reserved;",
    "unsigned int __mxcsr;\x7dfemode_t;",
    "int feclearexcept(int), fegetexceptflag(fexcept_t*,int), feraiseexcept(int);",
    "int fesetexcept(int), fesetexceptflag(const fexcept_t*,int), fetestexcept(int);",
    "int fetestexceptflag(const fexcept_t*,int), fegetround(void), fesetround(int);",
    "int fegetenv(fenv_t*), feholdexcept(fenv_t*), fesetenv(const fenv_t*);",
    "int feupdateenv(const fenv_t*), fegetmode(femode_t*), fesetmode(const femode_t*);",
    "int feenableexcept(int), fedisableexcept(int), fegetexcept(void);",
    "#define FE_INVALID FE_INVALID", "#define FE_DIVBYZERO FE_DIVBYZERO",
    "#define FE_OVERFLOW FE_OVERFLOW", "#define FE_UNDERFLOW FE_UNDERFLOW",
    "#define FE_INEXACT FE_INEXACT", "#define FE_TONEAREST FE_TONEAREST",
    "#define FE_DOWNWARD FE_DOWNWARD", "#define FE_UPWARD FE_UPWARD",
    "#define FE_TOWARDZERO FE_TOWARDZERO",
    "#define FE_ALL_EXCEPT (FE_INEXACT | FE_DIVBYZERO | FE_UNDERFLOW | FE_OVERFLOW | FE_INVALID)",
    "#define FE_DFL_ENV ((const fenv_t *) -1)"]

/-- Assertions. -/
def assertions : List String :=
  ["#include <features.h>", "#undef assert", "#ifdef NDEBUG", "#define assert(expr) ((void) (0))",
    "#else", "extern void __assert_fail (const char *, const char *, unsigned int,",
    "const char *) __attribute__ ((__noreturn__));",
    "#define assert(expr) ((expr) ? (void) (0) : __assert_fail (#expr, __FILE__, __LINE__, \\",
    "__extension__ __PRETTY_FUNCTION__))", "#endif", "#ifdef __USE_ISOC11", "#undef static_assert",
    "#define static_assert _Static_assert", "#endif"]

/-- Signals. -/
def signals : List String :=
  ["#include <bits/types.h>", "#include <stddef.h>", "#ifdef __USE_MISC", "#include <sys/types.h>",
    "typedef void (*sighandler_t)(int);", "int kill(int, int), killpg(int, int);", "#endif",
    "typedef int sig_atomic_t;", "typedef void (*__sighandler_t)(int);",
    "__sighandler_t signal(int, __sighandler_t);", "int raise(int);", "#define SIGABRT 6",
    "#define SIGALRM 14", "#define SIGBUS 7", "#define SIGCHLD 17", "#define SIGCLD SIGCHLD",
    "#define SIGCONT 18", "#define SIGFPE 8", "#define SIGHUP 1", "#define SIGILL 4",
    "#define SIGINT 2", "#define SIGIO SIGPOLL", "#define SIGIOT SIGABRT", "#define SIGKILL 9",
    "#define SIGPIPE 13", "#define SIGPOLL 29", "#define SIGPROF 27", "#define SIGPWR 30",
    "#define SIGQUIT 3", "#define SIGSEGV 11", "#define SIGSTKFLT 16", "#define SIGSTKSZ 8192",
    "#define SIGSTOP 19", "#define SIGSYS 31", "#define SIGTERM 15", "#define SIGTRAP 5",
    "#define SIGTSTP 20", "#define SIGTTIN 21", "#define SIGTTOU 22", "#define SIGURG 23",
    "#define SIGUSR1 10", "#define SIGUSR2 12", "#define SIGVTALRM 26", "#define SIGWINCH 28",
    "#define SIGXCPU 24", "#define SIGXFSZ 25", "#define SIG_DFL ((__sighandler_t) 0)",
    "#define SIG_ERR ((__sighandler_t) -1)", "#define SIG_IGN ((__sighandler_t) 1)"]

/-- Teams of threads. -/
def teams : List String :=
  ["typedef struct\x7bunsigned char _x[4];\x7domp_lock_t;",
    "typedef struct\x7bunsigned char _x[8 + sizeof(void*)];\x7domp_nest_lock_t;",
    "typedef enum omp_sched_t\x7bomp_sched_static = 1,omp_sched_dynamic = 2,",
    "omp_sched_guided = 3,omp_sched_auto = 4,omp_sched_monotonic = 0x80000000U\x7domp_sched_t;",
    "typedef enum omp_proc_bind_t\x7bomp_proc_bind_false = 0,omp_proc_bind_true = 1,",
    "omp_proc_bind_primary = 2,omp_proc_bind_master = omp_proc_bind_primary,",
    "omp_proc_bind_close = 3,omp_proc_bind_spread = 4\x7domp_proc_bind_t;",
    "typedef enum omp_sync_hint_t\x7bomp_sync_hint_none = 0,",
    "omp_lock_hint_none = omp_sync_hint_none,omp_sync_hint_uncontended = 1,",
    "omp_lock_hint_uncontended = omp_sync_hint_uncontended,omp_sync_hint_contended = 2,",
    "omp_lock_hint_contended = omp_sync_hint_contended,omp_sync_hint_nonspeculative = 4,",
    "omp_lock_hint_nonspeculative = omp_sync_hint_nonspeculative,",
    "omp_sync_hint_speculative = 8,",
    "omp_lock_hint_speculative = omp_sync_hint_speculative\x7domp_sync_hint_t;",
    "typedef omp_sync_hint_t omp_lock_hint_t;",
    "typedef struct omp_depend_t\x7bchar __omp_depend_t__[2*sizeof(void*)];\x7domp_depend_t;",
    "typedef enum omp_pause_resource_t\x7bomp_pause_soft = 1,",
    "omp_pause_hard = 2\x7domp_pause_resource_t;", "typedef unsigned long omp_uintptr_t;",
    "typedef enum omp_memspace_handle_t\x7bomp_default_mem_space = 0,",
    "omp_large_cap_mem_space = 1,omp_const_mem_space = 2,omp_high_bw_mem_space = 3,",
    "omp_low_lat_mem_space = 4,",
    "__omp_memspace_handle_t_max__ = 0xffffffffffffffffUL\x7domp_memspace_handle_t;",
    "typedef enum omp_allocator_handle_t\x7bomp_null_allocator = 0,omp_default_mem_alloc = 1,",
    "omp_large_cap_mem_alloc = 2,omp_const_mem_alloc = 3,omp_high_bw_mem_alloc = 4,",
    "omp_low_lat_mem_alloc = 5,omp_cgroup_mem_alloc = 6,omp_pteam_mem_alloc = 7,",
    "omp_thread_mem_alloc = 8,",
    "__omp_allocator_handle_t_max__ = 0xffffffffffffffffUL\x7domp_allocator_handle_t;",
    "typedef enum omp_alloctrait_key_t\x7bomp_atk_sync_hint = 1,omp_atk_alignment = 2,",
    "omp_atk_access = 3,omp_atk_pool_size = 4,omp_atk_fallback = 5,omp_atk_fb_data = 6,",
    "omp_atk_pinned = 7,omp_atk_partition = 8\x7domp_alloctrait_key_t;",
    "typedef enum omp_alloctrait_value_t\x7bomp_atv_default =(unsigned long)-1,",
    "omp_atv_false = 0,omp_atv_true = 1,omp_atv_contended = 3,omp_atv_uncontended = 4,",
    "omp_atv_serialized = 5,omp_atv_sequential = omp_atv_serialized,omp_atv_private = 6,",
    "omp_atv_all = 7,omp_atv_thread = 8,omp_atv_pteam = 9,omp_atv_cgroup = 10,",
    "omp_atv_default_mem_fb = 11,omp_atv_null_fb = 12,omp_atv_abort_fb = 13,",
    "omp_atv_allocator_fb = 14,omp_atv_environment = 15,omp_atv_nearest = 16,",
    "omp_atv_blocked = 17,omp_atv_interleaved = 18\x7domp_alloctrait_value_t;",
    "typedef struct omp_alloctrait_t\x7bomp_alloctrait_key_t key;omp_uintptr_t value;",
    "\x7domp_alloctrait_t;", "typedef enum omp_event_handle_t\x7b",
    "__omp_event_handle_t_max__ = 0xffffffffffffffffUL\x7domp_event_handle_t;",
    "enum\x7bomp_initial_device = -1,omp_invalid_device = -4\x7d;",
    "void omp_set_num_threads(int), omp_set_dynamic(int), omp_set_nested(int);",
    "void omp_init_lock(omp_lock_t*), omp_init_lock_with_hint(omp_lock_t*,omp_sync_hint_t);",
    "void omp_destroy_lock(omp_lock_t*), omp_set_lock(omp_lock_t*);",
    "void omp_unset_lock(omp_lock_t*), omp_init_nest_lock(omp_nest_lock_t*);",
    "void omp_init_nest_lock_with_hint(omp_nest_lock_t*,omp_sync_hint_t);",
    "void omp_destroy_nest_lock(omp_nest_lock_t*), omp_set_nest_lock(omp_nest_lock_t*);",
    "void omp_unset_nest_lock(omp_nest_lock_t*), omp_set_schedule(omp_sched_t,int);",
    "void omp_get_schedule(omp_sched_t*,int*), omp_set_max_active_levels(int);",
    "void omp_get_place_proc_ids(int,int*), omp_get_partition_place_nums(int*);",
    "void omp_set_default_device(int), omp_fulfill_event(omp_event_handle_t);",
    "void omp_set_num_teams(int), omp_set_teams_thread_limit(int);",
    "void *omp_target_alloc(unsigned long,int), omp_target_free(void*,int);",
    "void *omp_get_mapped_ptr(const void*,int), omp_set_affinity_format(const char*);",
    "void omp_display_affinity(const char*), omp_destroy_allocator(omp_allocator_handle_t);",
    "void omp_set_default_allocator(omp_allocator_handle_t);",
    "void omp_free(void*,omp_allocator_handle_t);",
    "void *omp_alloc(unsigned long,omp_allocator_handle_t);",
    "void *omp_aligned_alloc(unsigned long,unsigned long,omp_allocator_handle_t);",
    "void *omp_calloc(unsigned long,unsigned long,omp_allocator_handle_t);",
    "void *omp_aligned_calloc(unsigned long,unsigned long,unsigned long,omp_allocator_handle_t);",
    "void *omp_realloc(void*,unsigned long,omp_allocator_handle_t,omp_allocator_handle_t);",
    "void omp_display_env(int);",
    "int omp_get_num_threads(void), omp_get_max_threads(void), omp_get_thread_num(void);",
    "int omp_get_num_procs(void), omp_in_parallel(void), omp_get_dynamic(void);",
    "int omp_get_nested(void), omp_test_lock(omp_lock_t*);",
    "int omp_test_nest_lock(omp_nest_lock_t*), omp_get_thread_limit(void);",
    "int omp_get_max_active_levels(void), omp_get_supported_active_levels(void);",
    "int omp_get_level(void), omp_get_ancestor_thread_num(int), omp_get_team_size(int);",
    "int omp_get_active_level(void), omp_in_final(void), omp_in_explicit_task(void);",
    "int omp_get_cancellation(void), omp_get_num_places(void), omp_get_place_num_procs(int);",
    "int omp_get_place_num(void), omp_get_partition_num_places(void);",
    "int omp_get_default_device(void), omp_get_num_devices(void), omp_get_device_num(void);",
    "int omp_get_num_teams(void), omp_get_team_num(void), omp_is_initial_device(void);",
    "int omp_get_initial_device(void), omp_get_max_task_priority(void);",
    "int omp_get_max_teams(void), omp_get_teams_thread_limit(void);",
    "int omp_target_is_present(const void*,int);",
    "int omp_target_memcpy(void*,const void*,unsigned long,unsigned long,unsigned long,int,int);",
    "int omp_target_memcpy_async(void*,const void*,unsigned long,unsigned long,unsigned long,int,",
    "int,int,omp_depend_t*);",
    "int omp_target_memcpy_rect(void*,const void*,unsigned long,int,const unsigned long*,",
    "const unsigned long*,const unsigned long*,const unsigned long*,const unsigned long*,int,",
    "int);",
    "int omp_target_memcpy_rect_async(void*,const void*,unsigned long,int,const unsigned long*,",
    "const unsigned long*,const unsigned long*,const unsigned long*,const unsigned long*,int,int,",
    "int,omp_depend_t*);",
    "int omp_target_associate_ptr(const void*,const void*,unsigned long,unsigned long,int);",
    "int omp_target_disassociate_ptr(const void*,int);",
    "int omp_target_is_accessible(const void*,unsigned long,int);",
    "int omp_pause_resource(omp_pause_resource_t,int);",
    "int omp_pause_resource_all(omp_pause_resource_t);",
    "double omp_get_wtime(void), omp_get_wtick(void);", "omp_proc_bind_t omp_get_proc_bind(void);",
    "unsigned long omp_get_affinity_format(char*,unsigned long);",
    "unsigned long omp_capture_affinity(char*,unsigned long,const char*);",
    "omp_allocator_handle_t omp_init_allocator(omp_memspace_handle_t,int,",
    "const omp_alloctrait_t[]);", "omp_allocator_handle_t omp_get_default_allocator(void);"]

/-- Operations that threads cannot divide. -/
def atomics : List String :=
  ["#include <stddef.h>", "#include <stdint.h>",
    "typedef enum \x7bmemory_order_relaxed, memory_order_consume, memory_order_acquire,",
    "memory_order_release, memory_order_acq_rel, memory_order_seq_cst\x7d memory_order;",
    "typedef _Atomic _Bool atomic_bool;", "typedef _Atomic char atomic_char;",
    "typedef _Atomic signed char atomic_schar;", "typedef _Atomic unsigned char atomic_uchar;",
    "typedef _Atomic short atomic_short;", "typedef _Atomic unsigned short atomic_ushort;",
    "typedef _Atomic int atomic_int;", "typedef _Atomic unsigned int atomic_uint;",
    "typedef _Atomic long atomic_long;", "typedef _Atomic unsigned long atomic_ulong;",
    "typedef _Atomic long long atomic_llong;", "typedef _Atomic unsigned long long atomic_ullong;",
    "typedef _Atomic __SIZE_TYPE__ atomic_size_t;",
    "typedef _Atomic __PTRDIFF_TYPE__ atomic_ptrdiff_t;",
    "typedef _Atomic __INTPTR_TYPE__ atomic_intptr_t;",
    "typedef _Atomic __UINTPTR_TYPE__ atomic_uintptr_t;",
    "typedef _Atomic __INTMAX_TYPE__ atomic_intmax_t;",
    "typedef _Atomic __UINTMAX_TYPE__ atomic_uintmax_t;",
    "typedef _Atomic __INT_FAST32_TYPE__ atomic_int_fast32_t;",
    "typedef _Atomic __UINT_FAST32_TYPE__ atomic_uint_fast32_t;",
    "typedef _Atomic __INT_FAST64_TYPE__ atomic_int_fast64_t;",
    "typedef _Atomic __UINT_FAST64_TYPE__ atomic_uint_fast64_t;",
    "#define ATOMIC_VAR_INIT(VALUE) (VALUE)", "#define ATOMIC_FLAG_INIT \x7b 0 \x7d",
    "typedef struct \x7b _Bool __val; \x7d atomic_flag;", "#define kill_dependency(Y) (Y)",
    "void atomic_thread_fence(memory_order), atomic_signal_fence(memory_order);",
    "#define atomic_thread_fence(MO) __atomic_thread_fence (MO)",
    "#define atomic_signal_fence(MO) __atomic_signal_fence (MO)",
    "#define atomic_is_lock_free(OBJ) ((void) (OBJ), 1)",
    "#define atomic_init(PTR, VAL) atomic_store_explicit (PTR, VAL, __ATOMIC_RELAXED)",
    "#define atomic_store_explicit(PTR, VAL, MO) __atomic_store_n (PTR, VAL, MO)",
    "#define atomic_store(PTR, VAL) __atomic_store_n (PTR, VAL, __ATOMIC_SEQ_CST)",
    "#define atomic_load_explicit(PTR, MO) __atomic_load_n (PTR, MO)",
    "#define atomic_load(PTR) __atomic_load_n (PTR, __ATOMIC_SEQ_CST)",
    "#define atomic_exchange_explicit(PTR, VAL, MO) __atomic_exchange_n (PTR, VAL, MO)",
    "#define atomic_exchange(PTR, VAL) __atomic_exchange_n (PTR, VAL, __ATOMIC_SEQ_CST)",
    "#define atomic_compare_exchange_strong_explicit(PTR, VAL, DES, SUC, FAIL) \\",
    "__atomic_compare_exchange_n (PTR, VAL, DES, 0, SUC, FAIL)",
    "#define atomic_compare_exchange_strong(PTR, VAL, DES) __atomic_compare_exchange_n (PTR, \\",
    "VAL, DES, 0, __ATOMIC_SEQ_CST, __ATOMIC_SEQ_CST)",
    "#define atomic_compare_exchange_weak_explicit(PTR, VAL, DES, SUC, FAIL) \\",
    "__atomic_compare_exchange_n (PTR, VAL, DES, 1, SUC, FAIL)",
    "#define atomic_compare_exchange_weak(PTR, VAL, DES) __atomic_compare_exchange_n (PTR, VAL, \\",
    "DES, 1, __ATOMIC_SEQ_CST, __ATOMIC_SEQ_CST)",
    "#define atomic_fetch_add(PTR, VAL) __atomic_fetch_add (PTR, VAL, __ATOMIC_SEQ_CST)",
    "#define atomic_fetch_add_explicit(PTR, VAL, MO) __atomic_fetch_add (PTR, VAL, MO)",
    "#define atomic_fetch_sub(PTR, VAL) __atomic_fetch_sub (PTR, VAL, __ATOMIC_SEQ_CST)",
    "#define atomic_fetch_sub_explicit(PTR, VAL, MO) __atomic_fetch_sub (PTR, VAL, MO)",
    "#define atomic_fetch_or(PTR, VAL) __atomic_fetch_or (PTR, VAL, __ATOMIC_SEQ_CST)",
    "#define atomic_fetch_or_explicit(PTR, VAL, MO) __atomic_fetch_or (PTR, VAL, MO)",
    "#define atomic_fetch_xor(PTR, VAL) __atomic_fetch_xor (PTR, VAL, __ATOMIC_SEQ_CST)",
    "#define atomic_fetch_xor_explicit(PTR, VAL, MO) __atomic_fetch_xor (PTR, VAL, MO)",
    "#define atomic_fetch_and(PTR, VAL) __atomic_fetch_and (PTR, VAL, __ATOMIC_SEQ_CST)",
    "#define atomic_fetch_and_explicit(PTR, VAL, MO) __atomic_fetch_and (PTR, VAL, MO)",
    "#define atomic_flag_test_and_set(PTR) __atomic_test_and_set ((PTR), __ATOMIC_SEQ_CST)",
    "#define atomic_flag_test_and_set_explicit(PTR, MO) __atomic_test_and_set ((PTR), (MO))",
    "#define atomic_flag_clear(PTR) __atomic_clear ((PTR), __ATOMIC_SEQ_CST)",
    "#define atomic_flag_clear_explicit(PTR, MO) __atomic_clear ((PTR), (MO))"]

/-- The headers of this module with their lines. -/
def numberHeaders : List (String × List String) :=
  [("features.h", features), ("bits/types.h", basicTypes), ("stdint.h", integers),
    ("inttypes.h", integerFormats), ("limits.h", limits), ("float.h", floatLimits),
    ("stddef.h", definitions), ("stdarg.h", arguments), ("iso646.h", words),
    ("stdbool.h", ["#if __STDC_VERSION__ <= 201710L", "#define bool _Bool", "#define true 1",
      "#define false 0", "#endif", "#define __bool_true_false_are_defined 1"]),
    ("stdalign.h", ["#define alignas _Alignas", "#define alignof _Alignof",
      "#define __alignas_is_defined 1", "#define __alignof_is_defined 1"]),
    ("stdnoreturn.h", ["#define noreturn _Noreturn"]), ("math.h", mathematics),
    ("complex.h", complexNumbers), ("tgmath.h", genericMathematics), ("fenv.h", floatSurroundings),
    ("assert.h", assertions), ("signal.h", signals), ("omp.h", teams), ("stdatomic.h", atomics),
    ("sys/cdefs.h", ["#include <features.h>"]), ("endian.h", ["#include <sys/types.h>"]),
    ("values.h", ["#include <limits.h>", "#include <float.h>"])]

end KernelForge.Compiler.Header
