/-!
# Headers of the general library

The declarations of the headers for texts, files, storage, characters and times. What a stricter
setting hides stands between conditions.
-/

namespace KernelForge.Compiler.Header

/-- The names of types of the system. -/
def systemTypes : List String :=
  ["#include <bits/types.h>", "#include <stddef.h>", "typedef __ino_t ino_t;",
    "typedef __dev_t dev_t;", "typedef __gid_t gid_t;", "typedef __mode_t mode_t;",
    "typedef __nlink_t nlink_t;", "typedef __uid_t uid_t;", "typedef __off_t off_t;",
    "typedef __pid_t pid_t;", "typedef __ssize_t ssize_t;", "typedef __clockid_t clockid_t;",
    "typedef __time_t time_t;", "typedef __timer_t timer_t;", "typedef __int8_t int8_t;",
    "typedef __int16_t int16_t;", "typedef __int32_t int32_t;", "typedef __int64_t int64_t;",
    "typedef __uint8_t u_int8_t;", "typedef __uint16_t u_int16_t;",
    "typedef __uint32_t u_int32_t;", "typedef __uint64_t u_int64_t;", "typedef int register_t;",
    "typedef __blkcnt_t blkcnt_t;", "typedef __fsblkcnt_t fsblkcnt_t;",
    "typedef __fsfilcnt_t fsfilcnt_t;", "#ifdef __USE_MISC", "typedef __u_char u_char;",
    "typedef __u_short u_short;", "typedef __u_int u_int;", "typedef __u_long u_long;",
    "typedef __quad_t quad_t;", "typedef __u_quad_t u_quad_t;", "typedef __fsid_t fsid_t;",
    "typedef __loff_t loff_t;", "typedef __id_t id_t;", "typedef __daddr_t daddr_t;",
    "typedef __caddr_t caddr_t;", "typedef __key_t key_t;", "typedef __clock_t clock_t;",
    "typedef __suseconds_t suseconds_t;", "typedef unsigned long ulong;",
    "typedef unsigned short ushort;", "typedef unsigned int uint;",
    "typedef struct\x7bunsigned long __val[(1024 /(8*sizeof(unsigned long)))];\x7d__sigset_t;",
    "typedef __sigset_t sigset_t;",
    "struct timeval\x7b__time_t tv_sec;__suseconds_t tv_usec;\x7d;",
    "struct timespec\x7b__time_t tv_sec;__syscall_slong_t tv_nsec;\x7d;",
    "typedef long __fd_mask;", "typedef __fd_mask fd_mask;", "typedef __blksize_t blksize_t;",
    "typedef union\x7bunsigned long long __value64; struct\x7bunsigned int __low;",
    "unsigned int __high; \x7d__value32; \x7d__atomic_wide_counter;",
    "typedef struct __pthread_internal_list\x7bstruct __pthread_internal_list*__prev;",
    "struct __pthread_internal_list*__next; \x7d__pthread_list_t;",
    "typedef struct __pthread_internal_slist\x7bstruct __pthread_internal_slist*__next;",
    "\x7d__pthread_slist_t;",
    "struct __pthread_mutex_s\x7bint __lock; unsigned int __count; int __owner;",
    "unsigned int __nusers; int __kind; short __spins; short __elision;",
    "__pthread_list_t __list; \x7d;",
    "struct __pthread_rwlock_arch_t\x7bunsigned int __readers; unsigned int __writers;",
    "unsigned int __wrphase_futex; unsigned int __writers_futex; unsigned int __pad3;",
    "unsigned int __pad4; int __cur_writer; int __shared; signed char __rwelision;",
    "unsigned char __pad1[7]; unsigned long __pad2; unsigned int __flags; \x7d;",
    "struct __pthread_cond_s\x7b__atomic_wide_counter __wseq; __atomic_wide_counter __g1_start;",
    "unsigned int __g_refs[2]; unsigned int __g_size[2]; unsigned int __g1_orig_size;",
    "unsigned int __wrefs; unsigned int __g_signals[2]; \x7d;", "typedef unsigned int __tss_t;",
    "typedef unsigned long __thrd_t;", "typedef struct\x7bint __data;\x7d__once_flag;",
    "typedef unsigned long pthread_t;",
    "typedef union\x7bchar __size[4];int __align;\x7dpthread_mutexattr_t;",
    "typedef union\x7bchar __size[4];int __align;\x7dpthread_condattr_t;",
    "typedef unsigned int pthread_key_t;", "typedef int pthread_once_t;",
    "union pthread_attr_t\x7bchar __size[56];long __align;\x7d;",
    "typedef union pthread_attr_t pthread_attr_t;",
    "typedef union\x7bstruct __pthread_mutex_s __data; char __size[40]; long __align;",
    "\x7dpthread_mutex_t;",
    "typedef union\x7bstruct __pthread_cond_s __data; char __size[48]; long long __align;",
    "\x7dpthread_cond_t;",
    "typedef union\x7bstruct __pthread_rwlock_arch_t __data; char __size[56]; long __align;",
    "\x7dpthread_rwlock_t;",
    "typedef union\x7bchar __size[8];long __align;\x7dpthread_rwlockattr_t;",
    "typedef volatile int pthread_spinlock_t;",
    "typedef union\x7bchar __size[32];long __align;\x7dpthread_barrier_t;",
    "typedef union\x7bchar __size[4];int __align;\x7dpthread_barrierattr_t;",
    "typedef struct\x7b__fd_mask __fds_bits[1024 /(8*(int)sizeof(__fd_mask))];\x7dfd_set;",
    "int select(int,fd_set*,fd_set*,fd_set*,struct timeval*);",
    "int pselect(int,fd_set*,fd_set*,fd_set*,const struct timespec*,const __sigset_t*);", "#endif",
    "#define BIG_ENDIAN 4321", "#define LITTLE_ENDIAN 1234", "#define BYTE_ORDER 1234",
    "#define __LITTLE_ENDIAN 1234", "#define __BYTE_ORDER 1234", "#define __BIG_ENDIAN 4321"]

/-- The type of a locale. -/
def localeTypes : List String :=
  ["struct __locale_struct\x7bstruct __locale_data*__locales[13];",
    "const unsigned short*__ctype_b; const int*__ctype_tolower; const int*__ctype_toupper;",
    "const char*__names[13]; \x7d;", "typedef struct __locale_struct*__locale_t;",
    "typedef __locale_t locale_t;"]

/-- Conversion, random numbers, storage, sorting and integers. -/
def general : List String :=
  ["#include <bits/types.h>", "#define __need_size_t", "#include <stddef.h>", "#ifdef __USE_MISC",
    "#include <sys/types.h>", "#endif", "typedef struct\x7bint quot;int rem;\x7ddiv_t;",
    "typedef struct\x7blong quot;long rem;\x7dldiv_t;",
    "typedef int(*__compar_fn_t)(const void*,const void*);",
    "size_t __ctype_get_mb_cur_max(void), mbstowcs(wchar_t*,const char*,size_t);",
    "size_t wcstombs(char*,const wchar_t*,size_t);",
    "double atof(const char*), strtod(const char*,char**);",
    "int atoi(const char*), rand(void), system(const char*), abs(int);",
    "int mblen(const char*,size_t), mbtowc(wchar_t*,const char*,size_t);",
    "int wctomb(char*,wchar_t);",
    "long atol(const char*), strtol(const char*,char**,int), labs(long);",
    "unsigned long strtoul(const char*,char**,int);",
    "void srand(unsigned int), *malloc(size_t), *calloc(size_t,size_t);",
    "void *realloc(void*,size_t), free(void*), abort(void), exit(int);",
    "void *bsearch(const void*,const void*,size_t,size_t,__compar_fn_t);",
    "void qsort(void*,size_t,size_t,__compar_fn_t);", "int atexit(void(*)(void));",
    "char *getenv(const char*);", "div_t div(int,int);", "ldiv_t ldiv(long,long);",
    "#ifdef __USE_ISOC99", "typedef struct\x7blong long quot;long long rem;\x7dlldiv_t;",
    "long long atoll(const char*), strtoll(const char*,char**,int), llabs(long long);",
    "float strtof(const char*,char**);", "long double strtold(const char*,char**);",
    "unsigned long long strtoull(const char*,char**,int);", "void _Exit(int);",
    "lldiv_t lldiv(long long,long long);", "#endif", "#ifdef __USE_ISOC11",
    "void *aligned_alloc(size_t,size_t), quick_exit(int);", "int at_quick_exit(void(*)(void));",
    "#endif", "#ifdef __USE_MISC",
    "struct random_data\x7bint32_t*fptr; int32_t*rptr; int32_t*state; int rand_type;",
    "int rand_deg; int rand_sep; int32_t*end_ptr; \x7d;",
    "struct drand48_data\x7bunsigned short __x[3]; unsigned short __old_x[3];",
    "unsigned short __c; unsigned short __init; unsigned long long __a; \x7d;",
    "long long strtoq(const char*,char**,int);",
    "unsigned long long strtouq(const char*,char**,int);",
    "char *l64a(long), *initstate(unsigned int,char*,size_t), *setstate(char*);",
    "char *mktemp(char*), *mkdtemp(char*), *realpath(const char*,char*);",
    "char *ecvt(double,int,int*,int*), *fcvt(double,int,int*,int*), *gcvt(double,int,char*);",
    "char *qecvt(long double,int,int*,int*), *qfcvt(long double,int,int*,int*);",
    "char *qgcvt(long double,int,char*);",
    "long a64l(const char*), random(void), lrand48(void), nrand48(unsigned short[3]);",
    "long mrand48(void), jrand48(unsigned short[3]);",
    "void srandom(unsigned int), srand48(long), lcong48(unsigned short[7]);",
    "void arc4random_buf(void*,size_t), *reallocarray(void*,size_t,size_t), *alloca(size_t);",
    "void *valloc(size_t);",
    "int random_r(struct random_data*,int32_t*), srandom_r(unsigned int,struct random_data*);",
    "int initstate_r(unsigned int,char*,size_t,struct random_data*);",
    "int setstate_r(char*,struct random_data*), rand_r(unsigned int*);",
    "int drand48_r(struct drand48_data*,double*);",
    "int erand48_r(unsigned short[3],struct drand48_data*,double*);",
    "int lrand48_r(struct drand48_data*,long*);",
    "int nrand48_r(unsigned short[3],struct drand48_data*,long*);",
    "int mrand48_r(struct drand48_data*,long*);",
    "int jrand48_r(unsigned short[3],struct drand48_data*,long*);",
    "int srand48_r(long,struct drand48_data*);",
    "int seed48_r(unsigned short[3],struct drand48_data*);",
    "int lcong48_r(unsigned short[7],struct drand48_data*);",
    "int posix_memalign(void**,size_t,size_t), putenv(char*);",
    "int setenv(const char*,const char*,int), unsetenv(const char*), clearenv(void);",
    "int mkstemp(char*), mkstemps(char*,int), ecvt_r(double,int,int*,int*,char*,size_t);",
    "int fcvt_r(double,int,int*,int*,char*,size_t);",
    "int qecvt_r(long double,int,int*,int*,char*,size_t);",
    "int qfcvt_r(long double,int,int*,int*,char*,size_t), rpmatch(const char*);",
    "int getsubopt(char**,char*const*,char**), getloadavg(double[],int);",
    "double drand48(void), erand48(unsigned short[3]);",
    "unsigned short *seed48(unsigned short[3]);",
    "__uint32_t arc4random(void), arc4random_uniform(__uint32_t);",
    "int on_exit(void(*)(int,void*),void*);", "#endif", "#define EXIT_FAILURE 1",
    "#define EXIT_SUCCESS 0", "#define RAND_MAX 2147483647",
    "#define MB_CUR_MAX (__ctype_get_mb_cur_max ())"]

/-- Texts and blocks of bytes. -/
def strings : List String :=
  ["#include <stddef.h>", "#ifdef __USE_MISC", "#include <bits/locale.h>", "#endif",
    "void *memcpy(void*,const void*,size_t), *memmove(void*,const void*,size_t);",
    "void *memset(void*,int,size_t), *memchr(const void*,int,size_t);",
    "int memcmp(const void*,const void*,size_t), __memcmpeq(const void*,const void*,size_t);",
    "int strcmp(const char*,const char*), strncmp(const char*,const char*,size_t);",
    "int strcoll(const char*,const char*);",
    "char *strcpy(char*,const char*), *strncpy(char*,const char*,size_t);",
    "char *strcat(char*,const char*), *strncat(char*,const char*,size_t);",
    "char *strchr(const char*,int), *strrchr(const char*,int);",
    "char *strpbrk(const char*,const char*), *strstr(const char*,const char*);",
    "char *strtok(char*,const char*), *__strtok_r(char*,const char*,char**), *strerror(int);",
    "size_t strxfrm(char*,const char*,size_t), strcspn(const char*,const char*);",
    "size_t strspn(const char*,const char*), strlen(const char*);", "#ifdef __USE_MISC",
    "void *memccpy(void*,const void*,int,size_t);",
    "void *memmem(const void*,size_t,const void*,size_t);",
    "void *__mempcpy(void*,const void*,size_t), *mempcpy(void*,const void*,size_t);",
    "void bcopy(const void*,void*,size_t), bzero(void*,size_t), explicit_bzero(void*,size_t);",
    "int strcoll_l(const char*,const char*,locale_t), bcmp(const void*,const void*,size_t);",
    "int ffs(int), ffsl(long), ffsll(long long), strcasecmp(const char*,const char*);",
    "int strncasecmp(const char*,const char*,size_t);",
    "int strcasecmp_l(const char*,const char*,locale_t);",
    "int strncasecmp_l(const char*,const char*,size_t,locale_t);",
    "int strerror_r(int,char*,size_t);",
    "size_t strxfrm_l(char*,const char*,size_t,locale_t), strnlen(const char*,size_t);",
    "size_t strlcpy(char*,const char*,size_t), strlcat(char*,const char*,size_t);",
    "char *strdup(const char*), *strndup(const char*,size_t), *strchrnul(const char*,int);",
    "char *strtok_r(char*,const char*,char**), *strcasestr(const char*,const char*);",
    "char *strerror_l(int,locale_t), *index(const char*,int), *rindex(const char*,int);",
    "char *strsep(char**,const char*), *strsignal(int), *__stpcpy(char*,const char*);",
    "char *stpcpy(char*,const char*), *__stpncpy(char*,const char*,size_t);",
    "char *stpncpy(char*,const char*,size_t);", "#endif", "#ifdef __USE_GNU",
    "void *rawmemchr(const void*,int), *memrchr(const void*,int,size_t);",
    "void *memfrob(void*,size_t);",
    "char *strerror_r(int,char*,size_t), *strfry(char*), *basename(const char*);",
    "const char *strerrordesc_np(int), *strerrorname_np(int), *sigabbrev_np(int);",
    "const char *sigdescr_np(int);", "int strverscmp(const char*,const char*);", "#endif"]

/-- Files and formatted text. -/
def files : List String :=
  ["#include <bits/types.h>", "#include <stddef.h>", "#include <stdarg.h>",
    "typedef struct\x7bint __count; union\x7bunsigned int __wch; char __wchb[4]; \x7d__value;",
    "\x7d__mbstate_t;",
    "typedef struct _G_fpos_t\x7b__off_t __pos;__mbstate_t __state;\x7d__fpos_t;",
    "typedef struct _G_fpos64_t\x7b__off64_t __pos;__mbstate_t __state;\x7d__fpos64_t;",
    "struct _IO_FILE;", "typedef struct _IO_FILE __FILE;", "typedef struct _IO_FILE FILE;",
    "struct _IO_marker;", "struct _IO_codecvt;", "struct _IO_wide_data;",
    "typedef void _IO_lock_t;",
    "struct _IO_FILE\x7bint _flags; char*_IO_read_ptr; char*_IO_read_end; char*_IO_read_base;",
    "char*_IO_write_base; char*_IO_write_ptr; char*_IO_write_end; char*_IO_buf_base;",
    "char*_IO_buf_end; char*_IO_save_base; char*_IO_backup_base; char*_IO_save_end;",
    "struct _IO_marker*_markers; struct _IO_FILE*_chain; int _fileno; int _flags2;",
    "__off_t _old_offset; unsigned short _cur_column; signed char _vtable_offset;",
    "char _shortbuf[1]; _IO_lock_t*_lock; __off64_t _offset; struct _IO_codecvt*_codecvt;",
    "struct _IO_wide_data*_wide_data; struct _IO_FILE*_freeres_list; void*_freeres_buf;",
    "size_t __pad5; int _mode;",
    "char _unused2[15*sizeof(int)- 4*sizeof(void*)- sizeof(size_t)]; \x7d;",
    "typedef __fpos_t fpos_t;", "extern FILE*stdin;", "extern FILE*stdout;", "extern FILE*stderr;",
    "int remove(const char*), rename(const char*,const char*), fclose(FILE*), fflush(FILE*);",
    "int setvbuf(FILE*,char*,int,size_t), fprintf(FILE*,const char*,...);",
    "int printf(const char*,...), sprintf(char*,const char*,...);",
    "int vfprintf(FILE*,const char*,__gnuc_va_list), vprintf(const char*,__gnuc_va_list);",
    "int vsprintf(char*,const char*,__gnuc_va_list), fscanf(FILE*,const char*,...);",
    "int scanf(const char*,...), sscanf(const char*,const char*,...), fgetc(FILE*);",
    "int getc(FILE*), getchar(void), fputc(int,FILE*), putc(int,FILE*), putchar(int);",
    "int fputs(const char*,FILE*), puts(const char*), ungetc(int,FILE*);",
    "int fseek(FILE*,long,int), fgetpos(FILE*,fpos_t*), fsetpos(FILE*,const fpos_t*);",
    "int feof(FILE*), ferror(FILE*), __uflow(FILE*), __overflow(FILE*,int);",
    "FILE *tmpfile(void), *fopen(const char*,const char*);",
    "FILE *freopen(const char*,const char*,FILE*);",
    "char *tmpnam(char[20]), *fgets(char*,int,FILE*), *gets(char*);",
    "void setbuf(FILE*,char*), rewind(FILE*), clearerr(FILE*), perror(const char*);",
    "size_t fread(void*,size_t,size_t,FILE*), fwrite(const void*,size_t,size_t,FILE*);",
    "long ftell(FILE*);", "#ifdef __USE_ISOC99", "int snprintf(char*,size_t,const char*,...);",
    "int vsnprintf(char*,size_t,const char*,__gnuc_va_list);",
    "int vfscanf(FILE*,const char*,__gnuc_va_list), vscanf(const char*,__gnuc_va_list);",
    "int vsscanf(const char*,const char*,__gnuc_va_list);", "#endif", "#ifdef __USE_MISC",
    "typedef __ssize_t cookie_read_function_t(void*__cookie,char*__buf,size_t __nbytes);",
    "typedef __ssize_t cookie_write_function_t(void*__cookie, const char*__buf,",
    "size_t __nbytes);",
    "typedef int cookie_seek_function_t(void*__cookie,__off64_t*__pos,int __w);",
    "typedef int cookie_close_function_t(void*__cookie);",
    "typedef struct _IO_cookie_io_functions_t\x7bcookie_read_function_t*read;",
    "cookie_write_function_t*write; cookie_seek_function_t*seek;",
    "cookie_close_function_t*close; \x7dcookie_io_functions_t;",
    "int renameat(int,const char*,int,const char*), fflush_unlocked(FILE*);",
    "int vasprintf(char**,const char*,__gnuc_va_list), __asprintf(char**,const char*,...);",
    "int asprintf(char**,const char*,...), vdprintf(int,const char*,__gnuc_va_list);",
    "int dprintf(int,const char*,...), getc_unlocked(FILE*), getchar_unlocked(void);",
    "int fgetc_unlocked(FILE*), fputc_unlocked(int,FILE*), putc_unlocked(int,FILE*);",
    "int putchar_unlocked(int), getw(FILE*), putw(int,FILE*), fseeko(FILE*,__off_t,int);",
    "int feof_unlocked(FILE*), ferror_unlocked(FILE*), fileno(FILE*), fileno_unlocked(FILE*);",
    "int pclose(FILE*), ftrylockfile(FILE*);",
    "char *tmpnam_r(char[20]), *tempnam(const char*,const char*), *ctermid(char*);",
    "FILE *fdopen(int,const char*), *fopencookie(void*,const char*,cookie_io_functions_t);",
    "FILE *fmemopen(void*,size_t,const char*), *open_memstream(char**,size_t*);",
    "FILE *popen(const char*,const char*);",
    "void setbuffer(FILE*,char*,size_t), setlinebuf(FILE*), clearerr_unlocked(FILE*);",
    "void flockfile(FILE*), funlockfile(FILE*);",
    "__ssize_t __getdelim(char**,size_t*,int,FILE*), getdelim(char**,size_t*,int,FILE*);",
    "__ssize_t getline(char**,size_t*,FILE*);",
    "size_t fread_unlocked(void*,size_t,size_t,FILE*);",
    "size_t fwrite_unlocked(const void*,size_t,size_t,FILE*);", "__off_t ftello(FILE*);", "#endif",
    "#define EOF (-1)", "#define BUFSIZ 8192", "#define FILENAME_MAX 4096", "#define FOPEN_MAX 16",
    "#define L_tmpnam 20", "#define TMP_MAX 238328", "#define SEEK_SET 0", "#define SEEK_CUR 1",
    "#define SEEK_END 2", "#define _IOFBF 0", "#define _IOLBF 1", "#define _IONBF 2",
    "#define stdin stdin", "#define stdout stdout", "#define stderr stderr",
    "#define P_tmpdir \"/tmp\""]

/-- Classes of characters. -/
def characters : List String :=
  ["#include <bits/types.h>", "#ifdef __USE_MISC", "#include <bits/locale.h>", "#endif",
    "const unsigned short **__ctype_b_loc(void);",
    "const __int32_t **__ctype_tolower_loc(void), **__ctype_toupper_loc(void);",
    "int isalnum(int), isalpha(int), iscntrl(int), isdigit(int), islower(int), isgraph(int);",
    "int isprint(int), ispunct(int), isspace(int), isupper(int), isxdigit(int), tolower(int);",
    "int toupper(int);", "#ifdef __USE_ISOC99", "int isblank(int);", "#endif", "#ifdef __USE_MISC",
    "int isascii(int), toascii(int), _toupper(int), _tolower(int), isalnum_l(int,locale_t);",
    "int isalpha_l(int,locale_t), iscntrl_l(int,locale_t), isdigit_l(int,locale_t);",
    "int islower_l(int,locale_t), isgraph_l(int,locale_t), isprint_l(int,locale_t);",
    "int ispunct_l(int,locale_t), isspace_l(int,locale_t), isupper_l(int,locale_t);",
    "int isxdigit_l(int,locale_t), isblank_l(int,locale_t), __tolower_l(int,locale_t);",
    "int tolower_l(int,locale_t), __toupper_l(int,locale_t), toupper_l(int,locale_t);", "#endif"]

/-- Times and dates. -/
def time : List String :=
  ["#include <bits/types.h>", "#include <stddef.h>", "#ifdef __USE_MISC",
    "#include <bits/locale.h>", "#endif", "clock_t clock(void);",
    "time_t time(time_t*), mktime(struct tm*);", "double difftime(time_t,time_t);",
    "size_t strftime(char*,size_t,const char*,const struct tm*);",
    "struct tm *gmtime(const time_t*), *localtime(const time_t*);",
    "char *asctime(const struct tm*), *ctime(const time_t*);", "extern char*__tzname[2];",
    "extern int __daylight;", "extern long __timezone;", "#ifdef __USE_ISOC11",
    "int timespec_get(struct timespec*,int);", "#endif", "#ifdef __USE_MISC",
    "struct tm\x7bint tm_sec; int tm_min; int tm_hour; int tm_mday; int tm_mon; int tm_year;",
    "int tm_wday; int tm_yday; int tm_isdst; long tm_gmtoff; const char*tm_zone; \x7d;",
    "struct itimerspec\x7bstruct timespec it_interval;struct timespec it_value;\x7d;",
    "struct sigevent;", "size_t strftime_l(char*,size_t,const char*,const struct tm*,locale_t);",
    "struct tm *gmtime_r(const time_t*,struct tm*), *localtime_r(const time_t*,struct tm*);",
    "char *asctime_r(const struct tm*,char*), *ctime_r(const time_t*,char*);",
    "extern char*tzname[2];", "void tzset(void);", "extern int daylight;", "extern long timezone;",
    "time_t timegm(struct tm*), timelocal(struct tm*);",
    "int dysize(int), nanosleep(const struct timespec*,struct timespec*);",
    "int clock_getres(clockid_t,struct timespec*), clock_gettime(clockid_t,struct timespec*);",
    "int clock_settime(clockid_t,const struct timespec*);",
    "int clock_nanosleep(clockid_t,int,const struct timespec*,struct timespec*);",
    "int clock_getcpuclockid(pid_t,clockid_t*);",
    "int timer_create(clockid_t,struct sigevent*,timer_t*), timer_delete(timer_t);",
    "int timer_settime(timer_t,int,const struct itimerspec*,struct itimerspec*);",
    "int timer_gettime(timer_t,struct itimerspec*), timer_getoverrun(timer_t);", "#endif",
    "#define CLOCKS_PER_SEC ((__clock_t) 1000000)", "#define CLOCK_REALTIME 0",
    "#define CLOCK_MONOTONIC 1", "#define TIME_UTC 1"]

/-- Jumps out of functions. -/
def jumps : List String :=
  ["typedef long __jmp_buf[8];",
    "struct __jmp_buf_tag\x7b__jmp_buf __jmpbuf;int __mask_was_saved;__sigset_t __saved_mask;\x7d;",
    "typedef struct __jmp_buf_tag jmp_buf[1];",
    "int setjmp(jmp_buf), __sigsetjmp(struct __jmp_buf_tag[1],int);",
    "int _setjmp(struct __jmp_buf_tag[1]);", "void longjmp(struct __jmp_buf_tag[1],int);",
    "#ifdef __USE_MISC", "typedef struct __jmp_buf_tag sigjmp_buf[1];",
    "void _longjmp(struct __jmp_buf_tag[1],int), siglongjmp(sigjmp_buf,int);", "#endif",
    "#define setjmp(env) _setjmp (env)",
    "#define sigsetjmp(env,savemask) __sigsetjmp (env, savemask)"]

/-- Customs of places. -/
def locale : List String :=
  ["#include <stddef.h>", "struct lconv\x7bchar*decimal_point; char*thousands_sep; char*grouping;",
    "char*int_curr_symbol; char*currency_symbol; char*mon_decimal_point;",
    "char*mon_thousands_sep; char*mon_grouping; char*positive_sign; char*negative_sign;",
    "char int_frac_digits; char frac_digits; char p_cs_precedes; char p_sep_by_space;",
    "char n_cs_precedes; char n_sep_by_space; char p_sign_posn; char n_sign_posn;",
    "char __int_p_cs_precedes; char __int_p_sep_by_space; char __int_n_cs_precedes;",
    "char __int_n_sep_by_space; char __int_p_sign_posn; char __int_n_sign_posn; \x7d;",
    "char *setlocale(int,const char*);", "struct lconv *localeconv(void);", "#ifdef __USE_ISOC99",
    "struct lconv\x7bchar*decimal_point; char*thousands_sep; char*grouping;",
    "char*int_curr_symbol; char*currency_symbol; char*mon_decimal_point;",
    "char*mon_thousands_sep; char*mon_grouping; char*positive_sign; char*negative_sign;",
    "char int_frac_digits; char frac_digits; char p_cs_precedes; char p_sep_by_space;",
    "char n_cs_precedes; char n_sep_by_space; char p_sign_posn; char n_sign_posn;",
    "char int_p_cs_precedes; char int_p_sep_by_space; char int_n_cs_precedes;",
    "char int_n_sep_by_space; char int_p_sign_posn; char int_n_sign_posn; \x7d;", "#endif",
    "#ifdef __USE_MISC",
    "locale_t newlocale(int,const char*,locale_t), duplocale(locale_t), uselocale(locale_t);",
    "void freelocale(locale_t);", "#endif", "#define LC_CTYPE 0", "#define LC_NUMERIC 1",
    "#define LC_TIME 2", "#define LC_COLLATE 3", "#define LC_MONETARY 4", "#define LC_MESSAGES 5",
    "#define LC_ALL 6"]

/-- Calls of the system. -/
def system : List String :=
  ["#include <bits/types.h>", "#include <stddef.h>",
    "int access(const char*,int), close(int), pipe(int[2]), pause(void);",
    "int chown(const char*,__uid_t,__gid_t), chdir(const char*), dup(int), dup2(int,int);",
    "int execve(const char*,char*const[],char*const[]), execv(const char*,char*const[]);",
    "int execle(const char*,const char*,...), execl(const char*,const char*,...);",
    "int execvp(const char*,char*const[]), execlp(const char*,const char*,...);",
    "int setpgid(__pid_t,__pid_t), getgroups(int,__gid_t[]), setuid(__uid_t);",
    "int setgid(__gid_t), ttyname_r(int,char*,size_t), isatty(int);",
    "int link(const char*,const char*), unlink(const char*), rmdir(const char*);",
    "int tcsetpgrp(int,__pid_t), fsync(int);", "__off_t lseek(int,__off_t,int);",
    "ssize_t read(int,void*,size_t), write(int,const void*,size_t);",
    "unsigned int alarm(unsigned int), sleep(unsigned int);",
    "char *getcwd(char*,size_t), *ttyname(int), *getlogin(void);", "extern char**__environ;",
    "void _exit(int);", "long pathconf(const char*,int), fpathconf(int,int), sysconf(int);",
    "__pid_t getpid(void), getppid(void), getpgrp(void), __getpgid(__pid_t), setsid(void);",
    "__pid_t fork(void), tcgetpgrp(int);", "__uid_t getuid(void), geteuid(void);",
    "__gid_t getgid(void), getegid(void);", "#ifdef __USE_MISC", "typedef __intptr_t intptr_t;",
    "typedef __socklen_t socklen_t;",
    "int faccessat(int,const char*,int,int), usleep(__useconds_t);",
    "int fchown(int,__uid_t,__gid_t), lchown(const char*,__uid_t,__gid_t);",
    "int fchownat(int,const char*,__uid_t,__gid_t,int), fchdir(int);",
    "int fexecve(int,char*const[],char*const[]), nice(int), setpgrp(void);",
    "int setreuid(__uid_t,__uid_t), seteuid(__uid_t), setregid(__gid_t,__gid_t);",
    "int setegid(__gid_t), ttyslot(void), linkat(int,const char*,int,const char*,int);",
    "int symlink(const char*,const char*), symlinkat(const char*,int,const char*);",
    "int unlinkat(int,const char*,int), getlogin_r(char*,size_t), setlogin(const char*);",
    "int getopt(int,char*const*,const char*), gethostname(char*,size_t);",
    "int sethostname(const char*,size_t), sethostid(long), getdomainname(char*,size_t);",
    "int setdomainname(const char*,size_t), vhangup(void), revoke(const char*);",
    "int profil(unsigned short*,size_t,size_t,unsigned int), acct(const char*);",
    "int daemon(int,int), chroot(const char*), getpagesize(void), getdtablesize(void);",
    "int truncate(const char*,__off_t), ftruncate(int,__off_t), brk(void*);",
    "int lockf(int,int,__off_t), fdatasync(int), getentropy(void*,size_t);",
    "void closefrom(int), endusershell(void), setusershell(void), sync(void);",
    "void *sbrk(intptr_t);",
    "ssize_t pread(int,void*,size_t,__off_t), pwrite(int,const void*,size_t,__off_t);",
    "ssize_t readlink(const char*,char*,size_t), readlinkat(int,const char*,char*,size_t);",
    "__useconds_t ualarm(__useconds_t,__useconds_t);",
    "char *getwd(char*), *getusershell(void), *getpass(const char*);",
    "char *crypt(const char*,const char*);", "size_t confstr(int,char*,size_t);",
    "__pid_t getpgid(__pid_t), getsid(__pid_t), vfork(void);", "extern char*optarg;",
    "extern int optind;", "extern int opterr;", "extern int optopt;",
    "long gethostid(void), syscall(long,...);", "#endif", "#define STDIN_FILENO 0",
    "#define STDOUT_FILENO 1", "#define STDERR_FILENO 2", "#define R_OK 4", "#define W_OK 2",
    "#define X_OK 1", "#define F_OK 0"]

/-- Texts of wide characters. -/
def wideTexts : List String :=
  ["#include <stddef.h>", "#include <stdarg.h>", "#include <stdio.h>", "#include <time.h>",
    "typedef unsigned int wint_t;", "typedef __mbstate_t mbstate_t;", "struct tm;",
    "wchar_t *wcscpy(wchar_t*,const wchar_t*), *wcsncpy(wchar_t*,const wchar_t*,size_t);",
    "wchar_t *wcscat(wchar_t*,const wchar_t*), *wcsncat(wchar_t*,const wchar_t*,size_t);",
    "wchar_t *wcschr(const wchar_t*,wchar_t), *wcsrchr(const wchar_t*,wchar_t);",
    "wchar_t *wcspbrk(const wchar_t*,const wchar_t*), *wcsstr(const wchar_t*,const wchar_t*);",
    "wchar_t *wcstok(wchar_t*,const wchar_t*,wchar_t**);",
    "wchar_t *wmemchr(const wchar_t*,wchar_t,size_t);",
    "wchar_t *wmemcpy(wchar_t*,const wchar_t*,size_t);",
    "wchar_t *wmemmove(wchar_t*,const wchar_t*,size_t), *wmemset(wchar_t*,wchar_t,size_t);",
    "wchar_t *fgetws(wchar_t*,int,__FILE*);", "int wcscmp(const wchar_t*,const wchar_t*);",
    "int wcsncmp(const wchar_t*,const wchar_t*,size_t);",
    "int wcscoll(const wchar_t*,const wchar_t*);",
    "int wmemcmp(const wchar_t*,const wchar_t*,size_t), wctob(wint_t);",
    "int mbsinit(const mbstate_t*), fputws(const wchar_t*,__FILE*);",
    "size_t wcsxfrm(wchar_t*,const wchar_t*,size_t), wcscspn(const wchar_t*,const wchar_t*);",
    "size_t wcsspn(const wchar_t*,const wchar_t*), wcslen(const wchar_t*);",
    "size_t mbrtowc(wchar_t*,const char*,size_t,mbstate_t*);",
    "size_t wcrtomb(char*,wchar_t,mbstate_t*), __mbrlen(const char*,size_t,mbstate_t*);",
    "size_t mbrlen(const char*,size_t,mbstate_t*);",
    "size_t mbsrtowcs(wchar_t*,const char**,size_t,mbstate_t*);",
    "size_t wcsrtombs(char*,const wchar_t**,size_t,mbstate_t*);",
    "size_t wcsftime(wchar_t*,size_t,const wchar_t*,const struct tm*);",
    "wint_t btowc(int), fgetwc(__FILE*), getwc(__FILE*), getwchar(void);",
    "wint_t fputwc(wchar_t,__FILE*), putwc(wchar_t,__FILE*), putwchar(wchar_t);",
    "wint_t ungetwc(wint_t,__FILE*);", "double wcstod(const wchar_t*,wchar_t**);",
    "long wcstol(const wchar_t*,wchar_t**,int);",
    "unsigned long wcstoul(const wchar_t*,wchar_t**,int);", "#ifdef __USE_ISOC99",
    "float wcstof(const wchar_t*,wchar_t**);", "long double wcstold(const wchar_t*,wchar_t**);",
    "long long wcstoll(const wchar_t*,wchar_t**,int);",
    "unsigned long long wcstoull(const wchar_t*,wchar_t**,int);",
    "int fwide(__FILE*,int), fwprintf(__FILE*,const wchar_t*,...);",
    "int wprintf(const wchar_t*,...), swprintf(wchar_t*,size_t,const wchar_t*,...);",
    "int vfwprintf(__FILE*,const wchar_t*,__gnuc_va_list);",
    "int vwprintf(const wchar_t*,__gnuc_va_list);",
    "int vswprintf(wchar_t*,size_t,const wchar_t*,__gnuc_va_list);",
    "int fwscanf(__FILE*,const wchar_t*,...), wscanf(const wchar_t*,...);",
    "int swscanf(const wchar_t*,const wchar_t*,...);",
    "int vfwscanf(__FILE*,const wchar_t*,__gnuc_va_list);",
    "int vwscanf(const wchar_t*,__gnuc_va_list);",
    "int vswscanf(const wchar_t*,const wchar_t*,__gnuc_va_list);", "#endif", "#ifdef __USE_MISC",
    "size_t wcslcpy(wchar_t*,const wchar_t*,size_t), wcslcat(wchar_t*,const wchar_t*,size_t);",
    "size_t wcsxfrm_l(wchar_t*,const wchar_t*,size_t,locale_t);",
    "size_t wcsnlen(const wchar_t*,size_t);",
    "size_t mbsnrtowcs(wchar_t*,const char**,size_t,size_t,mbstate_t*);",
    "size_t wcsnrtombs(char*,const wchar_t**,size_t,size_t,mbstate_t*);",
    "int wcscasecmp(const wchar_t*,const wchar_t*);",
    "int wcsncasecmp(const wchar_t*,const wchar_t*,size_t);",
    "int wcscasecmp_l(const wchar_t*,const wchar_t*,locale_t);",
    "int wcsncasecmp_l(const wchar_t*,const wchar_t*,size_t,locale_t);",
    "int wcscoll_l(const wchar_t*,const wchar_t*,locale_t);",
    "wchar_t *wcsdup(const wchar_t*), *wcpcpy(wchar_t*,const wchar_t*);",
    "wchar_t *wcpncpy(wchar_t*,const wchar_t*,size_t);",
    "__FILE *open_wmemstream(wchar_t**,size_t*);", "#endif", "#define WEOF (0xffffffffu)",
    "#define WCHAR_MAX __WCHAR_MAX__", "#define WCHAR_MIN __WCHAR_MIN__"]

/-- Classes of wide characters. -/
def wideCharacters : List String :=
  ["#include <wchar.h>", "typedef unsigned long wctype_t;", "typedef const __int32_t*wctrans_t;",
    "int iswalnum(wint_t), iswalpha(wint_t), iswcntrl(wint_t), iswdigit(wint_t);",
    "int iswgraph(wint_t), iswlower(wint_t), iswprint(wint_t), iswpunct(wint_t);",
    "int iswspace(wint_t), iswupper(wint_t), iswxdigit(wint_t), iswctype(wint_t,wctype_t);",
    "wctype_t wctype(const char*);",
    "wint_t towlower(wint_t), towupper(wint_t), towctrans(wint_t,wctrans_t);",
    "wctrans_t wctrans(const char*);", "#ifdef __USE_ISOC99", "int iswblank(wint_t);", "#endif",
    "#ifdef __USE_MISC", "int iswalnum_l(wint_t,locale_t), iswalpha_l(wint_t,locale_t);",
    "int iswcntrl_l(wint_t,locale_t), iswdigit_l(wint_t,locale_t);",
    "int iswgraph_l(wint_t,locale_t), iswlower_l(wint_t,locale_t);",
    "int iswprint_l(wint_t,locale_t), iswpunct_l(wint_t,locale_t);",
    "int iswspace_l(wint_t,locale_t), iswupper_l(wint_t,locale_t);",
    "int iswxdigit_l(wint_t,locale_t), iswblank_l(wint_t,locale_t);",
    "int iswctype_l(wint_t,wctype_t,locale_t);", "wctype_t wctype_l(const char*,locale_t);",
    "wint_t towlower_l(wint_t,locale_t), towupper_l(wint_t,locale_t);",
    "wint_t towctrans_l(wint_t,wctrans_t,locale_t);", "wctrans_t wctrans_l(const char*,locale_t);",
    "#endif"]

/-- Characters of fixed width. -/
def unicode : List String :=
  ["#include <wchar.h>", "typedef __uint_least16_t char16_t;",
    "typedef __uint_least32_t char32_t;",
    "size_t mbrtoc16(char16_t*,const char*,size_t,mbstate_t*);",
    "size_t c16rtomb(char*,char16_t,mbstate_t*);",
    "size_t mbrtoc32(char32_t*,const char*,size_t,mbstate_t*);",
    "size_t c32rtomb(char*,char32_t,mbstate_t*);"]

/-- Numbers of errors. -/
def errors : List String :=
  ["int *__errno_location(void);", "#define E2BIG 7", "#define EACCES 13", "#define EADDRINUSE 98",
    "#define EADDRNOTAVAIL 99", "#define EADV 68", "#define EAFNOSUPPORT 97", "#define EAGAIN 11",
    "#define EALREADY 114", "#define EBADE 52", "#define EBADF 9", "#define EBADFD 77",
    "#define EBADMSG 74", "#define EBADR 53", "#define EBADRQC 56", "#define EBADSLT 57",
    "#define EBFONT 59", "#define EBUSY 16", "#define ECANCELED 125", "#define ECHILD 10",
    "#define ECHRNG 44", "#define ECOMM 70", "#define ECONNABORTED 103",
    "#define ECONNREFUSED 111", "#define ECONNRESET 104", "#define EDEADLK 35",
    "#define EDEADLOCK EDEADLK", "#define EDESTADDRREQ 89", "#define EDOM 33",
    "#define EDOTDOT 73", "#define EDQUOT 122", "#define EEXIST 17", "#define EFAULT 14",
    "#define EFBIG 27", "#define EHOSTDOWN 112", "#define EHOSTUNREACH 113",
    "#define EHWPOISON 133", "#define EIDRM 43", "#define EILSEQ 84", "#define EINPROGRESS 115",
    "#define EINTR 4", "#define EINVAL 22", "#define EIO 5", "#define EISCONN 106",
    "#define EISDIR 21", "#define EISNAM 120", "#define EKEYEXPIRED 127",
    "#define EKEYREJECTED 129", "#define EKEYREVOKED 128", "#define EL2HLT 51",
    "#define EL2NSYNC 45", "#define EL3HLT 46", "#define EL3RST 47", "#define ELIBACC 79",
    "#define ELIBBAD 80", "#define ELIBEXEC 83", "#define ELIBMAX 82", "#define ELIBSCN 81",
    "#define ELNRNG 48", "#define ELOOP 40", "#define EMEDIUMTYPE 124", "#define EMFILE 24",
    "#define EMLINK 31", "#define EMSGSIZE 90", "#define EMULTIHOP 72", "#define ENAMETOOLONG 36",
    "#define ENAVAIL 119", "#define ENETDOWN 100", "#define ENETRESET 102",
    "#define ENETUNREACH 101", "#define ENFILE 23", "#define ENOANO 55", "#define ENOBUFS 105",
    "#define ENOCSI 50", "#define ENODATA 61", "#define ENODEV 19", "#define ENOENT 2",
    "#define ENOEXEC 8", "#define ENOKEY 126", "#define ENOLCK 37", "#define ENOLINK 67",
    "#define ENOMEDIUM 123", "#define ENOMEM 12", "#define ENOMSG 42", "#define ENONET 64",
    "#define ENOPKG 65", "#define ENOPROTOOPT 92", "#define ENOSPC 28", "#define ENOSR 63",
    "#define ENOSTR 60", "#define ENOSYS 38", "#define ENOTBLK 15", "#define ENOTCONN 107",
    "#define ENOTDIR 20", "#define ENOTEMPTY 39", "#define ENOTNAM 118",
    "#define ENOTRECOVERABLE 131", "#define ENOTSOCK 88", "#define ENOTSUP EOPNOTSUPP",
    "#define ENOTTY 25", "#define ENOTUNIQ 76", "#define ENXIO 6", "#define EOPNOTSUPP 95",
    "#define EOVERFLOW 75", "#define EOWNERDEAD 130", "#define EPERM 1", "#define EPFNOSUPPORT 96",
    "#define EPIPE 32", "#define EPROTO 71", "#define EPROTONOSUPPORT 93", "#define EPROTOTYPE 91",
    "#define ERANGE 34", "#define EREMCHG 78", "#define EREMOTE 66", "#define EREMOTEIO 121",
    "#define ERESTART 85", "#define ERFKILL 132", "#define EROFS 30", "#define ESHUTDOWN 108",
    "#define ESOCKTNOSUPPORT 94", "#define ESPIPE 29", "#define ESRCH 3", "#define ESRMNT 69",
    "#define ESTALE 116", "#define ESTRPIPE 86", "#define ETIME 62", "#define ETIMEDOUT 110",
    "#define ETOOMANYREFS 109", "#define ETXTBSY 26", "#define EUCLEAN 117", "#define EUNATCH 49",
    "#define EUSERS 87", "#define EWOULDBLOCK EAGAIN", "#define EXDEV 18", "#define EXFULL 54",
    "#define errno (*__errno_location ())"]

/-- The headers of this module with their lines. -/
def generalHeaders : List (String × List String) :=
  [("sys/types.h", systemTypes), ("bits/locale.h", localeTypes), ("stdlib.h", general),
    ("string.h", strings), ("stdio.h", files), ("ctype.h", characters), ("time.h", time),
    ("setjmp.h", jumps), ("locale.h", locale), ("unistd.h", system), ("wchar.h", wideTexts),
    ("wctype.h", wideCharacters), ("uchar.h", unicode), ("errno.h", errors),
    ("strings.h", ["#include <string.h>"]),
    ("malloc.h", ["#include <stddef.h>", "#include <stdio.h>", "#include <stdlib.h>"]),
    ("alloca.h", ["#include <stddef.h>", "void *alloca(size_t);", "#define alloca(size) __builtin_alloca (size)"]),
    ("memory.h", ["#include <string.h>"])]

end KernelForge.Compiler.Header
