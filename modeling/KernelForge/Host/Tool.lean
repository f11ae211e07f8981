import KernelForge.Config
import KernelForge.Host.FlagTable

/-!
# Programs that are run as compilers

What running a program by its name does. A name without a slash is looked for in the directories for
programs; a name with one is a path. Names of programs that are no compilers stand for what such a
program does with a compiler's arguments.
-/

namespace KernelForge.Host

/-- What a program does when it is run as a compiler. -/
inductive Tool where
  /-- Compiles, with flags of its own in front of the given ones. -/
  | compiler (flags : List String)
  /-- Ends well and writes nothing. -/
  | succeeds
  /-- Ends well and writes something that cannot be opened as a module. -/
  | writes
  | fails
  deriving DecidableEq, Repr

/-- The names of compilers. -/
def compilerNames : List String :=
  wordsOf ["cc gcc gcc-13 x86_64-linux-gnu-gcc x86_64-linux-gnu-gcc-13"]

/-- The names of compilers for the wider language. -/
def wideCompilerNames : List String :=
  wordsOf ["c++ g++ g++-13 x86_64-linux-gnu-g++ x86_64-linux-gnu-g++-13"]

/-- The programs that take a compiler's arguments for something harmless. -/
def harmlessPrograms : List String :=
  wordsOf ["true echo printf addr2line gcc-nm gcc-nm-13 gcc-ranlib gcc-ranlib-13 gcov-dump gcov-dump-13 gprof nm ranlib strip",
    "perl perl5.38.2 python3 python3.12 python curl gpg whereis uptime vmstat bunzip2 bzcat bzip2 findmnt flock ipcs",
    "logger lsblk lsipc lslogins mount swapon sysctl pidof update-passwd partx pager"]

/-- The programs that do not. -/
def failingPrograms : List String :=
  wordsOf ["[ addpart apt apt-cache apt-get apt-key ar arch as awk b2sum base32 base64 basename basenc bash blkid c++filt",
    "captoinfo cat chage chattr chcon chfn chgrp chmem chmod choom chown chroot chrt chsh cksum clear cmp comm cp",
    "csplit cut dash date dd debconf delpart df diff diff3 dir dircolors dirname dmesg dnsdomainname domainname dpkg",
    "dpkg-deb dpkg-query du dwp egrep elfedit env expand expiry expr factor faillog fallocate false fgrep file find",
    "fincore fmt fold free fsck gcc-ar gcov gcov-tool gencat getconf getent getopt git gold gpgv grep groups gunzip",
    "gzip hardlink head hostid hostname i386 iconv id infocmp infotocap install ionice ipcmk ipcrm ischroot join last",
    "lastb lastlog ld ld.bfd ld.gold ld.so ldconfig ldd link linux32 linux64 ln locale localedef logname losetup ls",
    "lsattr lscpu lslocks lsmem lsns lto-dump make gmake mawk nawk gawk mcookie md5sum mesg mkdir mkfifo mkfs mknod mkswap",
    "mktemp mountpoint mv namei newgrp nice nisdomainname nl nohup nproc nsenter numfmt objcopy objdump od",
    "openssl paste patch pathchk pinky pldd pmap pr printenv prlimit ps ptx pwd pwdx rbash readelf readlink realpath",
    "renice reset resizepart rev rgrep rmdir run-parts runcon script sdiff sed seq setarch setpriv setsid setterm",
    "sg sh sha1sum sha224sum sha256sum sha384sum sha512sum shred shuf size sleep sort split ssh stat stdbuf strings",
    "stty sum sync tabs tac tail tar taskset tee tempfile test tic timeout tload toe touch tput tr truncate tset tsort",
    "tty tzselect umount uname uncompress unexpand uniq unlink unshare unxz users vdir w wall watch wc wdctl which",
    "who whoami x86_64 xargs xz xzcat yes ypdomainname zcat zcmp zdiff zdump zegrep zgrep zic"]

/-- What the program of a file does. -/
def Tool.ofName? (name : String) : Option Tool :=
  if compilerNames.contains name then some (.compiler [])
  else if wideCompilerNames.contains name then some (.compiler ["-xc++"])
  else if name = "c89" || name = "c89-gcc" then some (.compiler ["-std=c89"])
  else if name = "c99" || name = "c99-gcc" then some (.compiler ["-std=c99"])
  else if ["cpp", "cpp-13", "x86_64-linux-gnu-cpp", "x86_64-linux-gnu-cpp-13"].contains name then some .writes
  else if harmlessPrograms.contains name then some .succeeds
  else if failingPrograms.contains name then some .fails
  else none

/-- The directories that hold programs. -/
def programDirectories : List (List String) :=
  [["usr", "bin"], ["usr", "sbin"], ["usr", "local", "bin"], ["usr", "local", "sbin"]]

/-- The directories that are there. -/
def directories : List (List String) :=
  programDirectories ++
    ((wordsOf ["usr usr/lib usr/local usr/local/lib usr/local/share usr/local/include usr/share usr/include usr/src",
      "usr/games usr/libexec usr/lib/gcc usr/lib/x86_64-linux-gnu usr/lib64 etc etc/ssl tmp var var/lib var/log var/tmp",
      "var/cache dev dev/shm dev/pts proc proc/self sys root home opt mnt media srv run boot usr/share/doc"]).map
        fun path => path.splitOn "/")

/-- Files that are there and are no programs. -/
def plainFiles : List (List String) :=
  (wordsOf ["etc/passwd etc/hosts etc/hostname etc/group etc/fstab etc/resolv.conf etc/os-release etc/shadow etc/profile",
    "etc/environment etc/issue etc/shells etc/nsswitch.conf etc/bash.bashrc dev/null dev/zero dev/full dev/random",
    "dev/urandom dev/tty dev/stdin dev/stdout dev/stderr proc/cpuinfo proc/meminfo proc/version proc/self/maps",
    "usr/include/stdio.h usr/include/math.h"]).map fun path => path.splitOn "/"

/-- Directories whose names stand for others. -/
def links : List (String × List String) :=
  [("bin", ["usr", "bin"]), ("sbin", ["usr", "sbin"]), ("lib", ["usr", "lib"]), ("lib64", ["usr", "lib64"])]

/-- What a path leads to. -/
inductive Destination where
  | directory
  | program (tool : Tool)
  | file
  deriving DecidableEq, Repr

/-- What lies at the end of a path without links. -/
def destination? (path : List String) : Option Destination :=
  if path.isEmpty || directories.contains path then some .directory
  else if plainFiles.contains path then some .file
  else if programDirectories.take 2 |>.contains path.dropLast then
    (Tool.ofName? (path.getLast?.getD "")).map .program
  else none

/-- The longest name of a file, in bytes. -/
def nameLimit : Nat := 255

/-- The longest path, in bytes. -/
def pathLimit : Nat := 4095

/-- Follows the parts of a path from a place; a part that is empty stays there. -/
def follow (place : List String) : List String → Except RunFault Destination
  | [] =>
      match destination? place with
      | some d => .ok d
      | none => .error .notFound
  | part :: rest =>
      match destination? place with
      | some .directory =>
          if part.isEmpty || part = "." then follow place rest
          else if part = ".." then follow place.dropLast rest
          else if nameLimit < part.utf8ByteSize then .error .nameTooLong
          else if place.isEmpty then follow ((links.lookup part).getD [part]) rest
          else follow (place ++ [part]) rest
      | some _ => .error .notDirectory
      | none => .error .notFound

/-- The directory that work is done in. -/
def workingDirectory : List String := ["tmp"]

/-- What running the program at a path does. -/
def Tool.atPath (path : String) : Except RunFault Tool :=
  if pathLimit < path.utf8ByteSize then .error .nameTooLong
  else
    let found := match path.splitOn "/" with
      | "" :: parts => follow [] parts
      | parts => follow workingDirectory parts
    match found with
    | .ok (.program tool) => .ok tool
    | .ok _ => .error .notPermitted
    | .error reason => .error reason

/-- The most bytes that an argument can have. -/
def argumentLimit : Nat := 131071

/-- What running the configured compiler does. -/
def Tool.find (config : HostConfig) : Except RunFault Tool :=
  let name := config.compiler
  if (name :: config.flags).any fun s => s.toList.contains '\x00' then .error .nulByte
  else if name.isEmpty then .error .notFound
  else
    let found := if name.toList.contains '/' then Tool.atPath name
      else if nameLimit < name.utf8ByteSize then .error .nameTooLong
      else if name = "." || name = ".." then .error .notPermitted
      else
        match Tool.ofName? name with
        | some tool => .ok tool
        | none => .error .notFound
    match found with
    | .ok tool => if config.flags.any fun f => argumentLimit < f.utf8ByteSize then .error .tooManyArguments else .ok tool
    | .error reason => .error reason

end KernelForge.Host
