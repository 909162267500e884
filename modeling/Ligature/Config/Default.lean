import Ligature.Config.Basic

/-!
# The default configuration

What is in force when nothing is configured: the ligatures of most coding fonts, and the usual
parents of the usual modes.
-/
namespace Ligature.Config

def progLiterals : List String :=
  ["<==>", "<!--", "####", "|||>", "<|||", "~~>", "***", "||=", "||>", ":::", "::=", "=:=", "===",
   "==>", "=!=", "=>>", "=<<", "=/=", "!==", "!!.", ">=>", ">>=", ">>>", ">>-", ">->", "->>",
   "-->", "---", "-<<", "<~~", "<~>", "<*>", "<||", "<|>", "<$>", "<==", "<=>", "<=<", "<->",
   "<--", "<-<", "<<=", "<<-", "<<<", "<+>", "</>", "###", "..<", "...", "+++", "/==", "///",
   "_|_", "&&", "^=", "~~", "~@", "~=", "~>", "~-", "**", "*>", "*/", "||", "|\x7d", "|]", "|=",
   "|>", "|-", "\x7b|", "[|", "]#", "::", ":=", ":>", ":<", "$>", "==", "=>", "!=", "!!", ">:",
   ">=", ">>", ">-", "-~", "-|", "->", "--", "-<", "<~", "<*", "<|", "<:", "<$", "<=", "<>", "<-",
   "<<", "<+", "</", "#\x7b", "#[", "#:", "#=", "#!", "##", "#(", "#?", "#_", "%%", ".=", ".-",
   "..", ".?", "+>", "++", "?:", "?=", "?.", "??", ";;", "/*", "/=", "/>", "//", "__", "://"]

def defaultSets : List LigatureSet :=
  let prog := LigatureSet.forMode "prog" progLiterals
  [.forAll ["www"],
   .forMode "text" ["ff", "fi", "ffi"],
   { prog with ligatures := prog.ligatures ++
      [.expr '=' (.oneOrMore (.chars ['>', '<', '|', '/', '~', ':', '!', '='])),
       .expr '-' (.oneOrMore (.chars ['>', '<', '~', '-']))] }]

def defaultParents : List (String × String) :=
  [("prog", "fundamental"), ("text", "fundamental"), ("c", "prog"), ("cpp", "c"), ("rust", "prog"),
   ("python", "prog"), ("javascript", "prog"), ("typescript", "javascript"), ("go", "prog"),
   ("haskell", "prog"), ("shell", "prog"), ("markdown", "text"), ("org", "text")]

def defaultModes : List ModeDeclaration := defaultParents.map fun (name, parent) => ⟨name, parent⟩

def defaultIgnored : List String := ["minibuffer-inactive"]

def defaultCacheSize : UInt64 := 256

def default : Config := ⟨defaultSets, defaultModes, defaultIgnored, defaultCacheSize⟩

def empty : Config := ⟨[], [], [], defaultCacheSize⟩

end Ligature.Config
