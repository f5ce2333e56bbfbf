import TraceLens.Failure
import TraceLens.Text.LowerCase

/-!
# Languages

The languages that source text can be highlighted as. A language is found by any of its aliases;
upper and lower case are not told apart.
-/

namespace TraceLens.Language

/-- The languages with their aliases, separated by spaces. No alias belongs to two of them. -/
def known : List (String × String) := [
  ("ABAP", "abap"), ("AMDGPU", "amdgpu"), ("APL", "apl"), ("ABNF", "abnf"),
  ("ActionScript 3", "actionscript3 as3"), ("ActionScript", "actionscript as"),
  ("Ada", "ada ada95 ada2005"), ("ADL", "adl"), ("Agda", "agda"), ("Aheui", "aheui"),
  ("Alloy", "alloy"), ("AmbientTalk", "ambienttalk ambienttalk/2 at"), ("Ampl", "ampl"),
  ("HTML + Angular2", "html+ng2"), ("Angular2", "ng2"),
  ("ANTLR With ActionScript Target", "antlr-actionscript antlr-as"),
  ("ANTLR With C# Target", "antlr-csharp antlr-c#"), ("ANTLR With CPP Target", "antlr-cpp"),
  ("ANTLR With Java Target", "antlr-java"), ("ANTLR", "antlr"),
  ("ANTLR With ObjectiveC Target", "antlr-objc"), ("ANTLR With Perl Target", "antlr-perl"),
  ("ANTLR With Python Target", "antlr-python"), ("ANTLR With Ruby Target", "antlr-ruby antlr-rb"),
  ("ApacheConf", "apacheconf aconf apache"), ("AppleScript", "applescript"),
  ("Arduino", "arduino"), ("Arrow", "arrow"), ("Arturo", "arturo art"),
  ("ASCII armored", "asc pem"), ("ASN.1", "asn1"), ("AspectJ", "aspectj"),
  ("Asymptote", "asymptote asy"), ("Augeas", "augeas"), ("AutoIt", "autoit"),
  ("autohotkey", "autohotkey ahk"), ("Awk", "awk gawk mawk nawk"), ("BBC Basic", "bbcbasic"),
  ("BBCode", "bbcode"), ("BC", "bc"), ("BQN", "bqn"), ("BST", "bst bst-pybtex"), ("BARE", "bare"),
  ("Base Makefile", "basemake"), ("Bash", "bash sh ksh zsh shell openrc"),
  ("Bash Session", "console shell-session"), ("Batchfile", "batch bat dosbatch winbatch"),
  ("Bdd", "bdd"), ("Befunge", "befunge"), ("Berry", "berry be"), ("BibTeX", "bibtex bib"),
  ("BlitzBasic", "blitzbasic b3d bplus"), ("BlitzMax", "blitzmax bmax"),
  ("Blueprint", "blueprint"), ("BNF", "bnf"), ("Boa", "boa"), ("Boo", "boo"), ("Boogie", "boogie"),
  ("Brainfuck", "brainfuck bf"), ("BUGS", "bugs winbugs openbugs"), ("CAmkES", "camkes idl4"),
  ("C", "c"), ("CMake", "cmake"), ("c-objdump", "c-objdump"), ("CPSA", "cpsa"),
  ("CSS+UL4", "css+ul4"), ("aspx-cs", "aspx-cs"), ("C#", "csharp c# cs"),
  ("ca65 assembler", "ca65"), ("Caddyfile", "caddyfile caddy"), ("cADL", "cadl"),
  ("CapDL", "capdl"), ("Cap'n Proto", "capnp"), ("Carbon", "carbon"), ("CBM BASIC V2", "cbmbas"),
  ("CDDL", "cddl"), ("CEL", "cel"), ("Ceylon", "ceylon"), ("CFEngine3", "cfengine3 cf3"),
  ("ChaiScript", "chaiscript chai"), ("Chapel", "chapel chpl"), ("Charmci", "charmci"),
  ("HTML+Cheetah", "html+cheetah html+spitfire htmlcheetah"),
  ("JavaScript+Cheetah", "javascript+cheetah js+cheetah javascript+spitfire js+spitfire"),
  ("Cheetah", "cheetah spitfire"), ("XML+Cheetah", "xml+cheetah xml+spitfire"), ("Cirru", "cirru"),
  ("Clay", "clay"), ("Clean", "clean"), ("Clojure", "clojure clj"),
  ("ClojureScript", "clojurescript cljs"), ("COBOLFree", "cobolfree"), ("COBOL", "cobol"),
  ("CodeQL", "codeql ql"), ("CoffeeScript", "coffeescript coffee-script coffee"),
  ("Coldfusion CFC", "cfc"), ("Coldfusion HTML", "cfm"), ("cfstatement", "cfs"),
  ("COMAL-80", "comal comal80"), ("Common Lisp", "common-lisp cl lisp"),
  ("Component Pascal", "componentpascal cp"), ("cplint", "cplint"), ("C++", "cpp c++"),
  ("cpp-objdump", "cpp-objdump c++-objdumb cxx-objdump"), ("Crmsh", "crmsh pcmk"),
  ("Croc", "croc"), ("Cryptol", "cryptol cry"), ("Crystal", "cr crystal"),
  ("Csound Document", "csound-document csound-csd"), ("Csound Orchestra", "csound csound-orc"),
  ("Csound Score", "csound-score csound-sco"), ("CSS+Django/Jinja", "css+django css+jinja"),
  ("CSS+Ruby", "css+ruby css+erb"), ("CSS+Genshi Text", "css+genshitext css+genshi"),
  ("CSS", "css"), ("CSS+PHP", "css+php"), ("CSS+Smarty", "css+smarty"), ("CUDA", "cuda cu"),
  ("Cypher", "cypher"), ("Cython", "cython pyx pyrex"), ("D", "d"), ("d-objdump", "d-objdump"),
  ("Darcs Patch", "dpatch"), ("Dart", "dart"), ("DASM16", "dasm16"), ("Dax", "dax"),
  ("Debian Control file", "debcontrol control"), ("Debian Sources file", "debian.sources"),
  ("Delphi", "delphi pas pascal objectpascal"), ("Desktop file", "desktop"),
  ("Devicetree", "devicetree dts"), ("dg", "dg"), ("Diff", "diff udiff"),
  ("Django/Jinja", "django jinja"), ("Zone", "zone"), ("Docker", "docker dockerfile"),
  ("DTD", "dtd"), ("Duel", "duel jbst jsonml+bst"), ("Dylan session", "dylan-console dylan-repl"),
  ("Dylan", "dylan"), ("DylanLID", "dylan-lid lid"), ("ECL", "ecl"), ("eC", "ec"),
  ("Earl Grey", "earl-grey earlgrey eg"), ("Easytrieve", "easytrieve"), ("EBNF", "ebnf"),
  ("Eiffel", "eiffel"), ("Elixir iex session", "iex"), ("Elixir", "elixir ex exs"), ("Elm", "elm"),
  ("Elpi", "elpi"), ("EmacsLisp", "emacs-lisp elisp emacs"), ("E-mail", "email eml"),
  ("ERB", "erb"), ("Erlang", "erlang"), ("Erlang erl session", "erl"),
  ("HTML+Evoque", "html+evoque"), ("Evoque", "evoque"), ("XML+Evoque", "xml+evoque"),
  ("execline", "execline"), ("Ezhil", "ezhil"), ("F#", "fsharp f#"), ("FStar", "fstar"),
  ("Factor", "factor"), ("Fancy", "fancy fy"), ("Fantom", "fan"), ("Felix", "felix flx"),
  ("Fennel", "fennel fnl"), ("Fift", "fift fif"), ("Fish", "fish fishshell"),
  ("Flatline", "flatline"), ("FloScript", "floscript flo"), ("Forth", "forth"),
  ("FortranFixed", "fortranfixed"), ("Fortran", "fortran f90"),
  ("FoxPro", "foxpro vfp clipper xbase"), ("Freefem", "freefem"), ("FunC", "func fc"),
  ("Futhark", "futhark"), ("GAP session", "gap-console gap-repl"), ("GAP", "gap"),
  ("GDScript", "gdscript gd"), ("GLSL", "glsl"), ("GSQL", "gsql"), ("GAS", "gas asm"),
  ("g-code", "gcode"), ("Genshi", "genshi kid xml+genshi xml+kid"), ("Genshi Text", "genshitext"),
  ("Gettext Catalog", "pot po"), ("Gherkin", "gherkin cucumber"), ("Gleam", "gleam"),
  ("Gnuplot", "gnuplot"), ("Go", "go golang"), ("Golo", "golo"), ("GoodData-CL", "gooddata-cl"),
  ("GoogleSQL", "googlesql zetasql"), ("Gosu", "gosu"), ("Gosu Template", "gst"),
  ("GraphQL", "graphql"), ("Graphviz", "graphviz dot"), ("Groff", "groff nroff man"),
  ("Groovy", "groovy"), ("HLSL", "hlsl"), ("HTML+UL4", "html+ul4"), ("Haml", "haml"),
  ("HTML+Handlebars", "html+handlebars"), ("Handlebars", "handlebars"), ("Hare", "hare"),
  ("Haskell", "haskell hs"), ("Haxe", "haxe hxsl hx"), ("Hexdump", "hexdump"),
  ("HSAIL", "hsail hsa"), ("Hspec", "hspec"),
  ("HTML+Django/Jinja", "html+django html+jinja htmldjango"),
  ("HTML+Genshi", "html+genshi html+kid"), ("HTML", "html"), ("HTML+PHP", "html+php"),
  ("HTML+Smarty", "html+smarty"), ("HTTP", "http"), ("Hxml", "haxeml hxml"), ("Hy", "hylang hy"),
  ("Hybris", "hybris"), ("IDL", "idl"), ("Icon", "icon"), ("Idris", "idris idr"),
  ("Igor", "igor igorpro"), ("Inform 6", "inform6 i6"), ("Inform 6 template", "i6t"),
  ("Inform 7", "inform7 i7"), ("INI", "ini cfg dosini"), ("Io", "io"), ("Ioke", "ioke ik"),
  ("IRC logs", "irc"), ("Isabelle", "isabelle"), ("J", "j"), ("JMESPath", "jmespath jp"),
  ("JSLT", "jslt"), ("JAGS", "jags"), ("Janet", "janet"), ("Jasmin", "jasmin jasminxt"),
  ("Java", "java"),
  ("JavaScript+Django/Jinja", "javascript+django js+django javascript+jinja js+jinja"),
  ("JavaScript+Ruby", "javascript+ruby js+ruby javascript+erb js+erb"),
  ("JavaScript+Genshi Text", "js+genshitext js+genshi javascript+genshitext javascript+genshi"),
  ("JavaScript", "javascript js"), ("JavaScript+PHP", "javascript+php js+php"),
  ("JavaScript+Smarty", "javascript+smarty js+smarty"), ("Javascript+UL4", "js+ul4"),
  ("JCL", "jcl"), ("JSGF", "jsgf"), ("JSON5", "json5"), ("JSON-LD", "jsonld json-ld"),
  ("JSON", "json json-object"), ("Jsonnet", "jsonnet"), ("Java Server Page", "jsp"),
  ("JSX", "jsx react"), ("Julia console", "jlcon julia-repl"), ("Julia", "julia jl"),
  ("Juttle", "juttle"), ("K", "k"), ("Kal", "kal"),
  ("Kconfig", "kconfig menuconfig linux-config kernel-config"), ("Kernel log", "kmsg dmesg"),
  ("Koka", "koka"), ("Kotlin", "kotlin"), ("Kuin", "kuin"), ("Kusto", "kql kusto"), ("LSL", "lsl"),
  ("CSS+Lasso", "css+lasso"), ("HTML+Lasso", "html+lasso"),
  ("JavaScript+Lasso", "javascript+lasso js+lasso"), ("Lasso", "lasso lassoscript"),
  ("XML+Lasso", "xml+lasso"), ("LDAP configuration file", "ldapconf ldaprc"), ("LDIF", "ldif"),
  ("Lean", "lean lean3"), ("Lean4", "lean4"), ("LessCss", "less"),
  ("Lighttpd configuration file", "lighttpd lighty"), ("LilyPond", "lilypond"), ("Limbo", "limbo"),
  ("liquid", "liquid"), ("Literate Agda", "literate-agda lagda"),
  ("Literate Cryptol", "literate-cryptol lcryptol lcry"),
  ("Literate Haskell", "literate-haskell lhaskell lhs"),
  ("Literate Idris", "literate-idris lidris lidr"), ("LiveScript", "livescript live-script"),
  ("LLVM", "llvm"), ("LLVM-MIR Body", "llvm-mir-body"), ("LLVM-MIR", "llvm-mir"),
  ("Logos", "logos"), ("Logtalk", "logtalk"), ("Lua", "lua"), ("Luau", "luau"),
  ("MCFunction", "mcfunction mcf"), ("MCSchema", "mcschema"), ("MIME", "mime"), ("MIPS", "mips"),
  ("MOOCode", "moocode moo"), ("MSDOS Session", "doscon"), ("Macaulay2", "macaulay2"),
  ("Makefile", "make makefile mf bsdmake"), ("CSS+Mako", "css+mako"), ("HTML+Mako", "html+mako"),
  ("JavaScript+Mako", "javascript+mako js+mako"), ("Mako", "mako"), ("XML+Mako", "xml+mako"),
  ("Maple", "maple"), ("MAQL", "maql"), ("Markdown", "markdown md"), ("Mask", "mask"),
  ("Mason", "mason"), ("Mathematica", "mathematica mma nb wl wolfram"), ("Matlab", "matlab"),
  ("Matlab session", "matlabsession"), ("Maxima", "maxima macsyma"),
  ("Meson", "meson meson.build"), ("MiniD", "minid"), ("MiniScript", "miniscript ms"),
  ("Modelica", "modelica"), ("Modula-2", "modula2 m2"),
  ("MoinMoin/Trac Wiki markup", "trac-wiki moin"), ("Mojo", "mojo 🔥"), ("Monkey", "monkey"),
  ("Monte", "monte"), ("MoonScript", "moonscript moon"), ("Mosel", "mosel"),
  ("CSS+mozpreproc", "css+mozpreproc"), ("mozhashpreproc", "mozhashpreproc"),
  ("Javascript+mozpreproc", "javascript+mozpreproc"), ("mozpercentpreproc", "mozpercentpreproc"),
  ("XUL+mozpreproc", "xul+mozpreproc"), ("MQL", "mql mq4 mq5 mql4 mql5"), ("Mscgen", "mscgen msc"),
  ("MuPAD", "mupad"), ("MXML", "mxml"), ("MySQL", "mysql"), ("CSS+Myghty", "css+myghty"),
  ("HTML+Myghty", "html+myghty"), ("JavaScript+Myghty", "javascript+myghty js+myghty"),
  ("Myghty", "myghty"), ("XML+Myghty", "xml+myghty"), ("NCL", "ncl"), ("NSIS", "nsis nsi nsh"),
  ("NASM", "nasm"), ("objdump-nasm", "objdump-nasm"), ("Nemerle", "nemerle"), ("nesC", "nesc"),
  ("NestedText", "nestedtext nt"), ("NewLisp", "newlisp"), ("Newspeak", "newspeak"),
  ("Nginx configuration file", "nginx"), ("Nimrod", "nimrod nim"), ("Nit", "nit"),
  ("Nix", "nixos nix"), ("Node.js REPL console session", "nodejsrepl"), ("Notmuch", "notmuch"),
  ("NuSMV", "nusmv"), ("NumPy", "numpy"), ("Numba_IR", "numba_ir numbair"), ("objdump", "objdump"),
  ("Objective-C", "objective-c objectivec obj-c objc"),
  ("Objective-C++", "objective-c++ objectivec++ obj-c++ objc++"),
  ("Objective-J", "objective-j objectivej obj-j objj"), ("OCaml", "ocaml"), ("Octave", "octave"),
  ("ODIN", "odin"), ("OMG Interface Definition Language", "omg-idl"), ("Ooc", "ooc"),
  ("Opa", "opa"), ("OpenEdge ABL", "openedge abl progress"), ("OpenSCAD", "openscad"),
  ("Org Mode", "org orgmode org-mode"), ("Text output", "output"), ("PacmanConf", "pacmanconf"),
  ("Pan", "pan"), ("ParaSail", "parasail"), ("Pawn", "pawn"), ("PDDL", "pddl"), ("PEG", "peg"),
  ("Perl6", "perl6 pl6 raku"), ("Perl", "perl pl"), ("Phix", "phix"),
  ("PHP", "php php3 php4 php5"), ("Pig", "pig"), ("Pike", "pike"), ("PkgConfig", "pkgconfig"),
  ("PL/pgSQL", "plpgsql"), ("Pointless", "pointless"), ("Pony", "pony"), ("Portugol", "portugol"),
  ("PostScript", "postscript postscr"),
  ("PostgreSQL console (psql)", "psql postgresql-console postgres-console"),
  ("PostgreSQL EXPLAIN dialect", "postgres-explain"),
  ("PostgreSQL SQL dialect", "postgresql postgres"), ("POVRay", "pov"),
  ("PowerShell", "powershell pwsh posh ps1 psm1"), ("PowerShell Session", "pwsh-session ps1con"),
  ("Praat", "praat"), ("Procfile", "procfile"), ("Prolog", "prolog"), ("PromQL", "promql"),
  ("Promela", "promela"), ("Properties", "properties jproperties"),
  ("Protocol Buffer", "protobuf proto"), ("PRQL", "prql"),
  ("PsySH console session for PHP", "psysh"), ("PTX", "ptx"), ("Pug", "pug jade"),
  ("Puppet", "puppet"), ("PureScript", "purescript purs"), ("PyPy Log", "pypylog pypy"),
  ("Python 2.x", "python2 py2"), ("Python 2.x Traceback", "py2tb"),
  ("Python console session", "pycon python-console"),
  ("Python", "python py sage python3 py3 bazel starlark pyi"), ("Python Traceback", "pytb py3tb"),
  ("Python+UL4", "py+ul4"), ("QBasic", "qbasic basic"), ("Q", "q"), ("QVTO", "qvto qvt"),
  ("Qlik", "qlik qlikview qliksense qlikscript"), ("QML", "qml qbs"),
  ("RConsole", "rconsole rout"), ("Relax-NG Compact", "rng-compact rnc"), ("RPMSpec", "spec"),
  ("Racket", "racket rkt"), ("Ragel in C Host", "ragel-c"), ("Ragel in CPP Host", "ragel-cpp"),
  ("Ragel in D Host", "ragel-d"), ("Embedded Ragel", "ragel-em"),
  ("Ragel in Java Host", "ragel-java"), ("Ragel", "ragel"),
  ("Ragel in Objective C Host", "ragel-objc"), ("Ragel in Ruby Host", "ragel-ruby ragel-rb"),
  ("Rd", "rd"), ("ReasonML", "reasonml reason"), ("REBOL", "rebol"), ("Red", "red red/system"),
  ("Redcode", "redcode"), ("reg", "registry"), ("Rego", "rego"), ("Rell", "rell"),
  ("ResourceBundle", "resourcebundle resource"), ("Rexx", "rexx arexx"),
  ("RHTML", "rhtml html+erb html+ruby"), ("Ride", "ride"), ("Rita", "rita"),
  ("Roboconf Graph", "roboconf-graph"), ("Roboconf Instances", "roboconf-instances"),
  ("RobotFramework", "robotframework"), ("Rocq Prover", "rocq rocq-prover coq"), ("RQL", "rql"),
  ("RSL", "rsl"), ("reStructuredText", "restructuredtext rst rest"),
  ("TrafficScript", "trafficscript rts"), ("Ruby irb session", "rbcon irb"),
  ("Ruby", "ruby rb duby"), ("Rust", "rust rs"), ("SAS", "sas"), ("S", "splus s r"),
  ("Standard ML", "sml"), ("SNBT", "snbt"), ("SARL", "sarl"), ("Sass", "sass"), ("Savi", "savi"),
  ("Scala", "scala"), ("Scaml", "scaml"), ("scdoc", "scdoc scd"), ("Scheme", "scheme scm"),
  ("Scilab", "scilab"), ("SCSS", "scss"), ("Sed", "sed gsed ssed"), ("ShExC", "shexc shex"),
  ("Shen", "shen"), ("Sieve", "sieve"), ("Silver", "silver"), ("Singularity", "singularity"),
  ("Slash", "slash"), ("Slim", "slim"), ("Slurm", "slurm sbatch"), ("Smali", "smali"),
  ("Smalltalk", "smalltalk squeak st"), ("SmartGameFormat", "sgf"), ("Smarty", "smarty"),
  ("Smithy", "smithy"), ("Snobol", "snobol"), ("Snowball", "snowball"), ("Solidity", "solidity"),
  ("Soong", "androidbp bp soong"), ("Sophia", "sophia"), ("SourcePawn", "sp"),
  ("Debian Sourcelist", "debsources sourceslist sources.list"), ("SPARQL", "sparql"),
  ("Spice", "spice spicelang"), ("SQL+Jinja", "sql+jinja"), ("SQL", "sql"),
  ("sqlite3con", "sqlite3"), ("SquidConf", "squidconf squid.conf squid"), ("Srcinfo", "srcinfo"),
  ("Scalate Server Page", "ssp"), ("Stan", "stan"), ("Stata", "stata do"),
  ("SuperCollider", "supercollider sc"), ("Swift", "swift"), ("SWIG", "swig"),
  ("systemverilog", "systemverilog sv"), ("Systemd", "systemd"), ("TAP", "tap"),
  ("Typographic Number Theory", "tnt"), ("TOML", "toml"), ("TableGen", "tablegen td"),
  ("Tact", "tact"), ("TADS 3", "tads3"), ("Tal", "tal uxntal"), ("TASM", "tasm"), ("Tcl", "tcl"),
  ("Tcsh", "tcsh csh"), ("Tcsh Session", "tcshcon"), ("Tea", "tea"), ("teal", "teal"),
  ("Tera Term macro", "teratermmacro teraterm ttl"), ("Termcap", "termcap"),
  ("Terminfo", "terminfo"), ("Terraform", "terraform tf hcl"), ("TeX", "tex latex"),
  ("Text only", "text"), ("ThingsDB", "ti thingsdb"), ("Thrift", "thrift"), ("tiddler", "tid"),
  ("Tl-b", "tlb"), ("TLS Presentation Language", "tls"), ("Todotxt", "todotxt"),
  ("Transact-SQL", "tsql t-sql"), ("Treetop", "treetop"), ("TSX", "tsx"), ("Turtle", "turtle"),
  ("HTML+Twig", "html+twig"), ("Twig", "twig"), ("TypeScript", "typescript ts"),
  ("TypoScriptCssData", "typoscriptcssdata"), ("TypoScriptHtmlData", "typoscripthtmldata"),
  ("TypoScript", "typoscript"), ("Typst", "typst"), ("UL4", "ul4"), ("ucode", "ucode"),
  ("Unicon", "unicon"), ("Unix/Linux config files", "unixconfig linuxconfig"),
  ("UrbiScript", "urbiscript"), ("urlencoded", "urlencoded"), ("USD", "usd usda"),
  ("VBScript", "vbscript"), ("VCL", "vcl"), ("VCLSnippets", "vclsnippets vclsnippet"),
  ("VCTreeStatus", "vctreestatus"), ("VGL", "vgl"), ("Vala", "vala vapi"), ("aspx-vb", "aspx-vb"),
  ("VB.net", "vb.net vbnet lobas oobas sobas"), ("HTML+Velocity", "html+velocity"),
  ("Velocity", "velocity"), ("XML+Velocity", "xml+velocity"), ("Verifpal", "verifpal"),
  ("verilog", "verilog v"), ("vhdl", "vhdl"), ("VimL", "vim"),
  ("Visual Prolog Grammar", "visualprologgrammar"), ("Visual Prolog", "visualprolog"),
  ("Vue", "vue"), ("Vyper", "vyper"), ("WDiff", "wdiff"), ("WebAssembly", "wast wat"),
  ("Web IDL", "webidl"), ("WebGPU Shading Language", "wgsl"), ("Whiley", "whiley"),
  ("Wikitext", "wikitext mediawiki"), ("World of Warcraft TOC", "wowtoc"), ("Wren", "wren"),
  ("X10", "x10 xten"), ("XML+UL4", "xml+ul4"), ("XQuery", "xquery xqy xq xql xqm"),
  ("XML+Django/Jinja", "xml+django xml+jinja"), ("XML+Ruby", "xml+ruby xml+erb"), ("XML", "xml"),
  ("XML+PHP", "xml+php"), ("XML+Smarty", "xml+smarty"), ("Xorg", "xorg.conf"), ("X++", "xpp x++"),
  ("XSLT", "xslt"), ("Xtend", "xtend"), ("xtlang", "extempore"),
  ("YAML+Jinja", "yaml+jinja salt sls"), ("YAML", "yaml yml"), ("YANG", "yang"),
  ("YARA", "yara yar"), ("Zeek", "zeek bro"), ("Zephir", "zephir"), ("Zig", "zig"),
  ("ANSYS parametric design language", "ansys apdl")]

/-- The aliases of a language, as they stand in the list. -/
def aliases (entry : String × String) : List String :=
  (entry.2.toList.splitOn ' ').map String.ofList

/-- The language that an alias stands for. -/
def ofAlias? (name : String) : Option String :=
  (known.find? fun entry => (aliases entry).contains (LowerCase.lower name)).map Prod.fst

/-- The language that is asked for. -/
def ofName (name : String) : Except Failure String :=
  ((ofAlias? name).map Except.ok).getD (.error (.unsupportedLanguage name))

end TraceLens.Language
