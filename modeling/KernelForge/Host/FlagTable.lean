/-!
# Names of flags

The names that flags of a compilation are made of, by what may stand with them. Those for other languages
are taken with a remark and have no effect.
-/

namespace KernelForge.Host

/-- The words of lines. -/
def wordsOf (lines : List String) : List String := lines.flatMap fun line => line.splitOn " "

/-- Features that can be turned on and off and do not change what source means. -/
def switchedFeatures : List String :=
  wordsOf
    ["aggressive-loop-optimizations align-functions align-jumps align-labels align-loops",
      "all-virtual allocation-dce allow-parameterless-variadic-functions allow-store-data-races",
      "alt-external-templates analyzer analyzer-call-summaries analyzer-feasibility",
      "analyzer-fine-grained analyzer-show-duplicate-count analyzer-state-merge",
      "analyzer-state-purge analyzer-suppress-followups analyzer-transitivity",
      "analyzer-undo-inlining analyzer-verbose-edges analyzer-verbose-state-changes",
      "argument-alias argument-noalias argument-noalias-anything argument-noalias-global",
      "asynchronous-unwind-tables auto-inc-dec bit-tests bounds-check branch-count-reg",
      "branch-target-load-optimize branch-target-load-optimize2 btr-bb-exclusive",
      "building-libgcc caller-saves canon-prefix-map canonical-system-headers check-data-deps",
      "check-new check-pointer-bounds checking chkp-check-incomplete-type chkp-check-read",
      "chkp-check-write chkp-flexible-struct-trailing-arrays chkp-instrument-calls",
      "chkp-instrument-marked-only chkp-narrow-bounds chkp-optimize chkp-store-bounds",
      "chkp-treat-zero-dynamic-size-as-infinite chkp-use-fast-string-functions",
      "chkp-use-nochk-string-functions chkp-use-static-bounds chkp-use-static-const-bounds",
      "chkp-use-wrappers chkp-zero-input-bounds-for-main cilkplus code-hoisting",
      "combine-stack-adjustments common compare-debug compare-elim conserve-space",
      "conserve-stack cprop-registers crossjumping cse-follow-jumps cse-skip-blocks",
      "cx-fortran-rules cx-limited-range data-sections dbg-cnt-list dce debug-cpp",
      "debug-types-section deduce-init-list default-inline defer-pop delete-dead-exceptions",
      "delete-null-pointer-checks devirtualize devirtualize-at-ltrans",
      "devirtualize-speculatively diagnostics-color diagnostics-generate-patch",
      "diagnostics-parseable-fixits diagnostics-show-caret diagnostics-show-cwe",
      "diagnostics-show-labels diagnostics-show-line-numbers diagnostics-show-option",
      "diagnostics-show-path-depths diagnostics-show-rules dse dump-core",
      "dump-internal-locations dump-noaddr dump-passes dump-unnumbered dump-unnumbered-links",
      "dwarf2-cfi-asm early-inlining eliminate-dwarf2-dups eliminate-unused-debug-symbols",
      "eliminate-unused-debug-types emit-class-debug-always emit-struct-debug-baseonly",
      "emit-struct-debug-reduced enum-int-equiv exceptions expensive-optimizations",
      "extended-identifiers external-templates fat-lto-objects finite-loops float-store",
      "for-scope force-addr forward-propagate fp-int-builtin-inexact friend-injection",
      "function-cse function-sections gcse gcse-after-reload gcse-las gcse-lm gcse-sm gimple",
      "gnu-tm gnu-unique graphite graphite-identity guess-branch-probability guiding-decls",
      "handle-exceptions harden-compares harden-conditional-branches hoist-adjacent-loads",
      "honor-std huge-objects ident if-conversion if-conversion2 indirect-inlining",
      "inhibit-size-directive inline inline-atomics inline-functions",
      "inline-functions-called-once inline-small-functions instrument-functions",
      "instrument-functions-once ipa-bit-cp ipa-cp ipa-cp-alignment ipa-cp-clone ipa-icf",
      "ipa-icf-functions ipa-icf-variables ipa-matrix-reorg ipa-modref ipa-profile ipa-pta",
      "ipa-pure-const ipa-ra ipa-reference ipa-reference-addressable ipa-sra",
      "ipa-stack-alignment ipa-strict-aliasing ipa-struct-reorg ipa-vrp ira-hoist-pressure",
      "ira-loop-pressure ira-share-save-slots ira-share-spill-slots",
      "isolate-erroneous-paths-attribute isolate-erroneous-paths-dereference ivopts jump-tables",
      "keep-gc-roots-live keep-inline-functions keep-static-consts keep-static-functions",
      "labels-ok large-source-files lax-vector-conversions lifetime-dse",
      "limit-function-alignment live-range-shrinkage loop-block loop-flatten loop-interchange",
      "loop-nest-optimize loop-optimize loop-parallelize-all loop-strip-mine",
      "loop-unroll-and-jam lra-remat lto lto-odr-type-merging lto-report lto-report-wpa",
      "math-errno mem-report mem-report-wpa merge-all-constants merge-constants",
      "merge-debug-strings modulo-sched modulo-sched-allow-regmoves move-loop-invariants",
      "move-loop-stores mudflap mudflapir mudflapth new-abi non-call-exceptions nonnull-objects",
      "omit-frame-pointer openacc openmp-target-simd-clone opt-info optimize-register-move",
      "optimize-sibling-calls optimize-strlen optional-diags partial-inlining pcc-struct-return",
      "pch-deps pch-preprocess peel-loops peephole peephole2 plt post-ipa-mem-report",
      "pre-ipa-mem-report predictive-commoning prefetch-loop-arrays printf-return-value profile",
      "profile-abs-path profile-arcs profile-correction profile-generate",
      "profile-partial-training profile-reorder-functions profile-report profile-values",
      "reciprocal-math record-gcc-switches ree reg-struct-return regmove rename-registers",
      "reorder-blocks reorder-blocks-and-partition reorder-functions repo report-bug",
      "rerun-cse-after-loop rerun-loop-opt reschedule-modulo-scheduled-loops rounding-math",
      "sanitize-address-use-after-scope sanitize-recover sanitize-trap",
      "sanitize-undefined-trap-on-error save-optimization-record sched-critical-path-heuristic",
      "sched-dep-count-heuristic sched-group-heuristic sched-interblock",
      "sched-last-insn-heuristic sched-pressure sched-rank-heuristic sched-spec",
      "sched-spec-insn-heuristic sched-spec-load sched-spec-load-dangerous sched-stalled-insns",
      "sched-stalled-insns-dep sched2-use-superblocks sched2-use-traces schedule-fusion",
      "schedule-insns schedule-insns2 see sel-sched-pipelining sel-sched-pipelining-outer-loops",
      "sel-sched-reschedule-pipelined selective-scheduling selective-scheduling2",
      "semantic-interposition show-column shrink-wrap shrink-wrap-separate signaling-nans",
      "signed-zeros split-ivs-in-unroller split-loops split-paths split-stack split-wide-types",
      "split-wide-types-early squangle ssa-backprop ssa-phiopt stack-clash-protection",
      "stack-protector stdarg-opt store-merging strength-reduce strict-aliasing",
      "strict-flex-arrays strict-overflow strict-prototype strict-volatile-bitfields",
      "strong-eval-order sync-libcalls test-coverage this-is-variable thread-jumps time-report",
      "time-report-details toplevel-reorder tracer trampolines trapping-math trapv tree-bit-ccp",
      "tree-builtin-call-dce tree-ccp tree-ch tree-coalesce-vars tree-copy-prop tree-copyrename",
      "tree-cselim tree-dce tree-dominator-opts tree-dse tree-forwprop tree-fre",
      "tree-loop-distribute-patterns tree-loop-distribution tree-loop-if-convert",
      "tree-loop-if-convert-stores tree-loop-im tree-loop-ivcanon tree-loop-linear",
      "tree-loop-optimize tree-loop-vectorize tree-lrs tree-partial-pre tree-phiprop tree-pre",
      "tree-pta tree-reassoc tree-salias tree-scev-cprop tree-sink tree-slp-vectorize tree-slsr",
      "tree-sra tree-store-ccp tree-store-copy-prop tree-switch-conversion tree-tail-merge",
      "tree-ter tree-vect-loop-version tree-vectorize tree-vrp unconstrained-commons",
      "unit-at-a-time unreachable-traps unroll-all-loops unroll-loops unsafe-loop-optimizations",
      "unsafe-math-optimizations unswitch-loops unwind-tables use-linker-plugin",
      "var-tracking-assignments var-tracking-assignments-toggle variable-expansion-in-unroller",
      "vect-cost-model verbose-asm version-loops-for-strides vpt vtable-gc vtable-thunks",
      "vtv-counts vtv-debug web whole-file working-directory wrapv wrapv-pointer xref zee",
      "zero-initialized-in-bss"]

/-- Features that can only be turned on. -/
def positiveFeatures : List String :=
  wordsOf
    ["callgraph-info cf-protection chkp-first-field-has-own-bounds",
      "chkp-narrow-to-innermost-array compare-debug-second diagnostics-plain-output",
      "dump-ada-spec dump-ada-spec-slim dump-analyzer dump-analyzer-callgraph",
      "dump-analyzer-exploded-graph dump-analyzer-exploded-nodes dump-analyzer-exploded-nodes-2",
      "dump-analyzer-exploded-nodes-3 dump-analyzer-exploded-paths dump-analyzer-feasibility",
      "dump-analyzer-json dump-analyzer-state-purge dump-analyzer-stderr",
      "dump-analyzer-supergraph dump-analyzer-untracked dump-final-insns live-patching",
      "multiflags profile-info-section stack-protector-all stack-protector-explicit",
      "stack-protector-strong stack-usage track-macro-expansion tree-coalesce-inlined-vars"]

/-- Features that can only be turned off, or that come with a remark when they are turned on. -/
def negativeFeatures : List String :=
  wordsOf
    ["auto-profile builtin-printf random-seed stack-limit associative-math",
      "branch-probabilities delayed-branch profile-use section-anchors stack-check var-tracking",
      "var-tracking-uninit"]

/-- Features of other languages that can be turned on and off. -/
def foreignSwitches : List String :=
  wordsOf
    ["access-control aligned-new char8_t concepts concepts-ts constexpr-fp-except contracts",
      "coroutines declone-ctor-dtor diagnostics-show-template-tree elide-constructors",
      "elide-type enforce-eh-specs ext-numeric-literals extern-tls-init fold-simple-inlines",
      "gnu-keywords implement-inlines implicit-constexpr implicit-inline-templates",
      "implicit-templates lang-info-include-translate lang-info-include-translate-not",
      "lang-info-module-cmi local-ivars module-implicit-inline module-lazy",
      "module-version-ignore modules-ts new-inheriting-ctors new-ttp-matching nil-receivers",
      "nonansi-builtins nothrow-opt objc-call-cxx-cdtors objc-direct-dispatch objc-exceptions",
      "objc-gc objc-nilcheck objc-sjlj-exceptions operator-names pretty-templates",
      "replace-objc-classes rtti sized-deallocation stats strict-enums threadsafe-statics",
      "unroll-completely-grow-size use-cxa-atexit use-cxa-get-exception-ptr",
      "visibility-inlines-hidden visibility-ms-compat weak zero-link associative-math",
      "branch-probabilities delayed-branch profile-use section-anchors stack-check var-tracking",
      "var-tracking-uninit"]

/-- Features of other languages that can only be turned on. -/
def foreignPositives : List String :=
  wordsOf
    ["fixed-form fixed-line-length-none gnu-runtime module-header module-only next-runtime",
      "modules"]

/-- The names of warnings. -/
def knownWarnings : List String :=
  wordsOf
    ["NSObject-attribute absolute-value address address-of-packed-member aggregate-return",
      "aggressive-loop-optimizations alloc-zero alloca analyzer-allocation-size",
      "analyzer-deref-before-check analyzer-double-fclose analyzer-double-free",
      "analyzer-exposure-through-output-file analyzer-exposure-through-uninit-copy",
      "analyzer-fd-access-mode-mismatch analyzer-fd-double-close analyzer-fd-leak",
      "analyzer-fd-phase-mismatch analyzer-fd-type-mismatch analyzer-fd-use-after-close",
      "analyzer-fd-use-without-check analyzer-file-leak analyzer-free-of-non-heap",
      "analyzer-imprecise-fp-arithmetic analyzer-infinite-recursion analyzer-jump-through-null",
      "analyzer-malloc-leak analyzer-mismatching-deallocation analyzer-null-argument",
      "analyzer-null-dereference analyzer-out-of-bounds analyzer-possible-null-argument",
      "analyzer-possible-null-dereference analyzer-putenv-of-auto-var",
      "analyzer-shift-count-negative analyzer-shift-count-overflow analyzer-stale-setjmp-buffer",
      "analyzer-tainted-allocation-size analyzer-tainted-array-index analyzer-tainted-assertion",
      "analyzer-tainted-divisor analyzer-tainted-offset analyzer-tainted-size",
      "analyzer-too-complex analyzer-unsafe-call-within-signal-handler analyzer-use-after-free",
      "analyzer-use-of-pointer-in-stale-stack-frame analyzer-use-of-uninitialized-value",
      "analyzer-va-arg-type-mismatch analyzer-va-list-exhausted analyzer-va-list-leak",
      "analyzer-va-list-use-after-va-end analyzer-write-to-const",
      "analyzer-write-to-string-literal argument-mismatch arith-conversion array-bounds",
      "array-compare array-parameter attribute-alias attribute-warning attributes",
      "bad-function-cast bidi-chars bool-compare bool-operation builtin-declaration-mismatch",
      "builtin-macro-redefined c++-compat c11-c2x-compat c99-c11-compat cannot-profile",
      "cast-align cast-function-type cast-qual char-subscripts chkp clobbered comment comments",
      "complain-wrong-lang conversion coverage-invalid-line-number coverage-mismatch cpp",
      "dangling-else dangling-pointer date-time declaration-after-statement deprecated",
      "deprecated-declarations designated-init disabled-optimization discarded-array-qualifiers",
      "discarded-qualifiers div-by-zero double-promotion duplicate-decl-specifier",
      "duplicated-branches duplicated-cond empty-body endif-labels enum-compare enum-conversion",
      "enum-int-mismatch expansion-to-defined float-conversion float-equal format",
      "format-contains-nul format-diag format-extra-args format-nonliteral format-overflow",
      "format-security format-signedness format-truncation format-y2k format-zero-length",
      "frame-address free-nonheap-object hsa if-not-aligned ignored-attributes",
      "ignored-qualifiers implicit implicit-fallthrough implicit-function-declaration",
      "implicit-int import incompatible-pointer-types infinite-recursion init-self inline",
      "int-conversion int-in-bool-context int-to-pointer-cast invalid-memory-model invalid-pch",
      "invalid-utf8 jump-misses-init logical-not-parentheses logical-op long-long",
      "lto-type-mismatch main maybe-uninitialized memset-elt-size memset-transposed-args",
      "misleading-indentation mismatched-dealloc missing-attributes missing-braces",
      "missing-field-initializers missing-format-attribute missing-include-dirs",
      "missing-noreturn missing-parameter-type missing-profile mudflap multichar",
      "multistatement-macros narrowing nested-externs nonnull nonnull-compare normalized",
      "null-dereference odr old-style-declaration old-style-definition openacc-parallelism",
      "openmp-simd overflow overlength-strings override-init override-init-side-effects packed",
      "packed-bitfield-compat packed-not-aligned padded parentheses pointer-arith",
      "pointer-compare pointer-sign pointer-to-int-cast pragmas prio-ctor-dtor psabi",
      "redundant-decls restrict return-local-addr return-type scalar-storage-order",
      "sequence-point shadow shadow-compatible-local shadow-local shift-count-negative",
      "shift-count-overflow shift-negative-value shift-overflow sign-compare sign-conversion",
      "sizeof-array-argument sizeof-array-div sizeof-pointer-div sizeof-pointer-memaccess",
      "stack-protector strict-aliasing strict-overflow strict-prototypes string-compare",
      "stringop-overflow stringop-overread stringop-truncation suggest-final-methods",
      "suggest-final-types switch switch-bool switch-default switch-enum switch-outside-range",
      "switch-unreachable sync-nand tautological-compare traditional-conversion trampolines",
      "trigraphs trivial-auto-var-init tsan type-limits undef unicode uninitialized",
      "unreachable-code unsafe-loop-optimizations unused unused-but-set-parameter",
      "unused-but-set-variable unused-const-variable unused-function unused-label",
      "unused-local-typedefs unused-macros unused-parameter unused-result unused-value",
      "unused-variable use-after-free varargs variadic-macros vector-operation-performance vla",
      "vla-parameter volatile-register-var write-strings xor-used-as-pow zero-length-bounds abi",
      "c90-c99-compat missing-declarations missing-prototypes strict-flex-arrays traditional",
      "unknown-pragmas unsuffixed-float-constants"]

/-- The names of warnings for other languages. -/
def foreignWarnings : List String :=
  wordsOf
    ["abi-tag aligned-new assign-intercept c++0x-compat c++11-compat c++11-extensions",
      "c++14-compat c++14-extensions c++17-compat c++17-extensions c++1z-compat c++20-compat",
      "c++20-extensions c++23-extensions c++2a-compat catch-value changes-meaning",
      "class-conversion class-memaccess comma-subscript conditionally-supported conversion-null",
      "ctad-maybe-unsupported ctor-dtor-privacy dangling-reference delete-incomplete",
      "delete-non-virtual-dtor deprecated-copy deprecated-copy-dtor",
      "deprecated-enum-enum-conversion deprecated-enum-float-conversion effc++ exceptions",
      "extra-semi inaccessible-base inherited-variadic-ctor init-list-lifetime",
      "interference-size invalid-constexpr invalid-imported-macros invalid-offsetof",
      "literal-suffix mismatched-new-delete mismatched-tags missing-requires",
      "missing-template-keyword multiple-inheritance namespaces noexcept noexcept-type",
      "non-template-friend non-virtual-dtor objc-root-class old-style-cast overloaded-virtual",
      "pessimizing-move placement-new pmf-conversions property-assign-default protocol",
      "range-loop-construct redundant-move redundant-tags register reorder selector self-move",
      "shadow-ivar sign-promo sized-deallocation strict-null-sentinel strict-selector-match",
      "subobject-linkage suggest-override synth templates terminate undeclared-selector",
      "useless-cast vexing-parse virtual-inheritance virtual-move-assign volatile",
      "zero-as-null-pointer-constant"]

/-- Properties of the machine that can be turned on and off. -/
def machineSwitches : List String :=
  wordsOf
    ["3dnow 3dnowa 80387 8bit-idiv abm accumulate-outgoing-args adx aes align-double",
      "align-stringops amx-bf16 amx-complex amx-fp16 amx-int8 amx-tile avx avx2",
      "avx256-split-unaligned-load avx256-split-unaligned-store avx5124fmaps avx5124vnniw",
      "avx512bf16 avx512bitalg avx512bw avx512cd avx512dq avx512er avx512f avx512fp16",
      "avx512ifma avx512pf avx512vbmi avx512vbmi2 avx512vl avx512vnni avx512vp2intersect",
      "avx512vpopcntdq avxifma avxneconvert avxvnni avxvnniint8 bmi bmi2 call-ms2sysv-xlogues",
      "cet-switch cld cldemote clflushopt clwb clzero cmpccxadd crc32 cx16 daz-ftz",
      "direct-extern-access enqcmd f16c fancy-math-387 fentry fma fma4 force-drap",
      "force-indirect-call fp-ret-in-387 fsgsbase fused-madd fxsr gather gfni hle hreset",
      "ieee-fp indirect-branch-cs-prefix indirect-branch-register inline-all-stringops",
      "inline-stringops-dynamically intel-syntax kl lwp lzcnt manual-endbr mitigate-rop mmx",
      "movbe movdir64b movdiri mpx ms-bitfields mwait mwaitx needed omit-leaf-frame-pointer",
      "pclmul pcommit pconfig pku popcnt prefer-avx128 prefetchi prefetchwt1 prfchw ptwrite",
      "push-args raoint rdpid rdrnd rdseed recip record-mcount record-return red-zone",
      "relax-cmpxchg-loop rtm sahf scatter serialize sgx sha shstk skip-rax-setup soft-float",
      "sse2 sse2avx sse3 sse4 sse4.1 sse4.2 sse4a sse5 ssse3 stackrealign stv tbm",
      "tls-direct-seg-refs tsxldtrk uintr unroll-only-small-loops vaes vect8-ret-in-mem",
      "vpclmulqdq vzeroupper waitpkg wbnoinvd widekl xop xsave xsavec xsaveopt xsaves"]

/-- Properties of the machine that can only be turned on. -/
def machinePositives : List String :=
  wordsOf
    ["128bit-long-double 64 bionic dispatch-scheduler dump-tune-features glibc hard-float",
      "long-double-128 long-double-64 long-double-80 musl pc32 pc64 pc80 sse sseregparm uclibc"]

/-- Properties of the machine that can only be turned off, or that come with a remark. -/
def machineNegatives : List String :=
  wordsOf
    ["android default iamcu nop-mcount rtd"]

/-- The machines that code can be made for. -/
def architectures : List String :=
  wordsOf
    ["nocona core2 nehalem corei7 westmere sandybridge corei7-avx ivybridge core-avx-i haswell",
      "core-avx2 broadwell skylake skylake-avx512 cannonlake icelake-client rocketlake",
      "icelake-server cascadelake tigerlake cooperlake sapphirerapids emeraldrapids alderlake",
      "raptorlake meteorlake graniterapids graniterapids-d bonnell atom silvermont slm goldmont",
      "goldmont-plus tremont gracemont sierraforest grandridge knl knm x86-64 x86-64-v2",
      "x86-64-v3 x86-64-v4 eden-x2 nano nano-1000 nano-2000 nano-3000 nano-x2 eden-x4 nano-x4",
      "lujiazui k8 k8-sse3 opteron opteron-sse3 athlon64 athlon64-sse3 athlon-fx amdfam10",
      "barcelona bdver1 bdver2 bdver3 bdver4 znver1 znver2 znver3 znver4 btver1 btver2 native"]

/-- The machines that code can be tuned for. -/
def tunings : List String :=
  wordsOf
    ["nocona core2 nehalem corei7 westmere sandybridge corei7-avx ivybridge core-avx-i haswell",
      "core-avx2 broadwell skylake skylake-avx512 cannonlake icelake-client rocketlake",
      "icelake-server cascadelake tigerlake cooperlake sapphirerapids emeraldrapids alderlake",
      "raptorlake meteorlake graniterapids graniterapids-d bonnell atom silvermont slm goldmont",
      "goldmont-plus tremont gracemont sierraforest grandridge knl knm intel x86-64 eden-x2",
      "nano nano-1000 nano-2000 nano-3000 nano-x2 eden-x4 nano-x4 lujiazui k8 k8-sse3 opteron",
      "opteron-sse3 athlon64 athlon64-sse3 athlon-fx amdfam10 barcelona bdver1 bdver2 bdver3",
      "bdver4 znver1 znver2 znver3 znver4 btver1 btver2 generic native"]

/-- The beginnings of flags that any text can follow. -/
def textValued : List String :=
  wordsOf
    ["fada-spec-parent= fanalyzer-checker= fdbg-cnt= fdump-final-insns= fdump-go-spec=",
      "finstrument-functions-exclude-file-list= finstrument-functions-exclude-function-list=",
      "fno-openacc-dim= fopenacc-dim= fprofile-dir= fprofile-exclude-files=",
      "fprofile-filter-files= fprofile-generate= fprofile-info-section= fprofile-note=",
      "fprofile-prefix-path= frandom-seed= fsanitize-sections= fstack-check=",
      "fstack-limit-symbol= ftree-vectorizer-verbose= mfentry-name= mfentry-section=",
      "mstack-protector-guard-symbol="]

/-- The beginnings of flags that a count follows. -/
def countValued : List String :=
  wordsOf
    ["falign-functions= falign-jumps= falign-labels= falign-loops= fanalyzer-verbosity=",
      "fchecking= fdiagnostics-column-origin= fdiagnostics-minimum-margin-width= finline-limit=",
      "fira-verbose= fmax-errors= fmessage-length= fno-analyzer-verbosity=",
      "fno-diagnostics-minimum-margin-width= fno-patchable-function-entry=",
      "fpatchable-function-entry= fsched-stalled-insns-dep= fsched-stalled-insns=",
      "fsched-verbose= ftabstop= ftrack-macro-expansion= ftree-parallelize-loops=",
      "mlarge-data-threshold= mstack-protector-guard-offset="]

/-- The beginnings of flags for other languages that any text can follow. -/
def foreignTextValued : List String :=
  wordsOf
    ["fconstant-string-class= fcontract-assumption-mode= fcontract-build-level=",
      "fcontract-continuation-mode= fcontract-role= fcontract-semantic=",
      "flang-info-include-translate= flang-info-module-cmi= fmodule-header= fmodule-mapper=",
      "fno-constant-string-class= fprofile-use="]

/-- The beginnings of flags for other languages that a count follows. -/
def foreignCountValued : List String :=
  wordsOf
    ["fabi-compat-version= faligned-new= fconcepts-diagnostics-depth= fconstexpr-cache-depth=",
      "fconstexpr-depth= fconstexpr-loop-limit= fconstexpr-ops-limit= fobjc-abi-version=",
      "ftemplate-backtrace-limit= ftemplate-depth="]

/-- The beginnings of flags that a number follows, with the least and the greatest one. -/
def rangeValued : List (String × Nat × Nat) :=
  [("Wabi=", 0, 4294967295), ("Warray-bounds=", 0, 2), ("Warray-parameter=", 0, 2),
    ("Wattribute-alias=", 0, 2), ("Wdangling-pointer=", 0, 2), ("Wformat-overflow=", 0, 2),
    ("Wformat-truncation=", 0, 2), ("Wformat=", 0, 2), ("Wimplicit-fallthrough=", 0, 5),
    ("Wshift-overflow=", 0, 2), ("Wstrict-aliasing=", 0, 3), ("Wstrict-overflow=", 0, 5),
    ("Wstringop-overflow=", 0, 4), ("Wunused-const-variable=", 0, 2), ("Wuse-after-free=", 0, 3),
    ("fabi-version=", 0, 4096), ("flifetime-dse=", 0, 2), ("flto-compression-level=", 0, 16),
    ("fmax-include-depth=", 8, 4096), ("fstack-limit-register=", 0, 64), ("fstrict-flex-arrays=", 0, 3),
    ("malign-functions=", 0, 16), ("malign-jumps=", 0, 16), ("malign-loops=", 0, 16),
    ("mbranch-cost=", 0, 5), ("mincoming-stack-boundary=", 3, 12), ("mpreferred-stack-boundary=", 3, 12)]

/-- The beginnings of flags that one of a few words follows. -/
def wordValued : List (String × List String) :=
  [("Wbidi-chars=", wordsOf ["none any ucn unpaired"]),
    ("Wnormalized=", wordsOf ["none id nfc nfkc"]),
    ("Wshadow=", wordsOf ["compatible-local global local"]),
    ("fcf-protection=", wordsOf ["none branch check full return"]),
    ("fcompare-debug=", wordsOf [" -g0"]),
    ("fdiagnostics-color=", wordsOf ["always auto never"]),
    ("fdiagnostics-column-unit=", wordsOf ["byte display"]),
    ("fdiagnostics-escape-format=", wordsOf ["bytes unicode"]),
    ("fdiagnostics-format=", wordsOf ["json json-file json-stderr sarif-file sarif-stderr text"]),
    ("fdiagnostics-path-format=", wordsOf ["none inline-events separate-events"]),
    ("fdiagnostics-show-location=", wordsOf ["every-line once"]),
    ("fdiagnostics-urls=", wordsOf ["always auto never"]),
    ("femit-struct-debug-detailed=", wordsOf ["none any base dir:any ind:sys"]),
    ("fexcess-precision=", wordsOf ["16 fast standard"]),
    ("ffp-contract=", wordsOf ["fast off on"]),
    ("fgnat-encodings=", wordsOf ["all gdb minimal"]),
    ("fira-algorithm=", wordsOf ["CB priority"]),
    ("fira-region=", wordsOf ["all mixed one"]),
    ("flive-patching=", wordsOf ["inline-clone inline-only-static"]),
    ("flto-partition=", wordsOf ["none 1to1 balanced max one"]),
    ("flto=", wordsOf ["1 2 3 4 5 6 8 12 16 64 4096 none"]),
    ("fno-emit-struct-debug-detailed=", wordsOf ["none"]),
    ("fno-sanitize-coverage=", wordsOf ["trace-cmp trace-pc"]),
    ("fno-sanitize-recover=", wordsOf ["all"]),
    ("fno-sanitize-trap=", wordsOf ["all"]),
    ("fno-sanitize=", wordsOf ["all"]),
    ("fopenmp-target-simd-clone=", wordsOf ["none any host nohost"]),
    ("fpermitted-flt-eval-methods=", wordsOf ["c11 ts-18661-3"]),
    ("fprofile-reproducible=", wordsOf ["multithreaded parallel-runs serial"]),
    ("fprofile-update=", wordsOf ["atomic prefer-atomic single"]),
    ("freorder-blocks-algorithm=", wordsOf ["simple stc"]),
    ("fsanitize-recover=", wordsOf ["all"]),
    ("fsanitize-trap=", wordsOf ["all"]),
    ("fsimd-cost-model=", wordsOf ["cheap dynamic unlimited very-cheap"]),
    ("fsso-struct=", wordsOf ["big-endian little-endian native"]),
    ("fstack-reuse=", wordsOf ["none all named_vars"]),
    ("fstrong-eval-order=", wordsOf ["none all some"]),
    ("ftls-model=", wordsOf ["global-dynamic initial-exec local-dynamic local-exec"]),
    ("ftrivial-auto-var-init=", wordsOf ["pattern uninitialized zero"]),
    ("fuse-ld=", wordsOf ["bfd gold lld"]),
    ("fvect-cost-model=", wordsOf ["cheap dynamic unlimited very-cheap"]),
    ("fvtable-verify=", wordsOf ["none"]),
    ("fzero-call-used-regs=", wordsOf ["all all-arg all-gpr all-gpr-arg skip used used-arg used-gpr used-gpr-arg"]),
    ("gz=", wordsOf ["none zlib zlib-gnu zstd"]),
    ("maddress-mode=", wordsOf ["long"]),
    ("malign-data=", wordsOf ["abi cacheline compat"]),
    ("masm=", wordsOf ["att intel"]),
    ("mcmodel=", wordsOf ["large medium small"]),
    ("mfpmath=", wordsOf ["387 387+sse 387,sse both sse sse+387 sse,387"]),
    ("mharden-sls=", wordsOf ["none all indirect-jmp return"]),
    ("mindirect-branch=", wordsOf ["keep thunk-extern"]),
    ("minstrument-return=", wordsOf ["none call nop5"]),
    ("mlam=", wordsOf ["none u48 u57"]),
    ("mmove-max=", wordsOf ["none 128 256 512"]),
    ("mprefer-vector-width=", wordsOf ["none 128 256 512"]),
    ("mrecip=", wordsOf ["none all !div default div sqrt vec-div"]),
    ("mstack-protector-guard=", wordsOf ["global tls"]),
    ("mstore-max=", wordsOf ["none 128 256 512"]),
    ("mstringop-strategy=", wordsOf ["byte_loop libcall loop rep_4byte rep_8byte rep_byte unrolled_loop"]),
    ("mtls-dialect=", wordsOf ["gnu gnu2"]),
    ("mveclibabi=", wordsOf ["acml svml"])]

/-- The same for flags of other languages. -/
def foreignWordValued : List (String × List String) :=
  [("fbounds-check=", wordsOf ["off on safeonly"]),
    ("fcheckaction=", wordsOf ["context halt throw"]),
    ("fcontract-mode=", wordsOf ["off on"]),
    ("fcontract-strict-declarations=", wordsOf ["off on"]),
    ("fconvert=", wordsOf ["big-endian little-endian native r16_ibm r16_ieee swap"]),
    ("fextern-std=", wordsOf ["c++03 c++11 c++14 c++17 c++20 c++98"]),
    ("finit-real=", wordsOf ["-inf inf nan snan zero"]),
    ("fivar-visibility=", wordsOf ["package private protected public"]),
    ("flinker-output=", wordsOf ["dyn exec nolto-rel pie rel unknown"]),
    ("frust-compile-until=", wordsOf ["ast attributecheck compilation const end expansion lowering nameresolution privacy typecheck"]),
    ("frust-edition=", wordsOf ["2015 2018 2021"]),
    ("frust-mangling=", wordsOf ["legacy v0"])]

end KernelForge.Host
