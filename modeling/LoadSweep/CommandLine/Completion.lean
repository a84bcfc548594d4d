import LoadSweep.CommandLine.Arguments

/-!
# Completion

Completion scripts let a shell complete the names of commands.  For each shell there is a script,
and a hint how to install it.
-/

namespace LoadSweep.CommandLine

open LoadSweep.Text

set_option autoImplicit false

/-- A shell with completion. -/
inductive Shell where
  | bash
  | zsh
  | fish
  | powershell
  | elvish
  deriving Repr, DecidableEq

/-- The name of a shell without regard to letter case. -/
def shellKey (name : String) : String :=
  String.ofList (lowerAscii name.toList)

/-- The shell with a name. -/
def Shell.ofName? (name : String) : Option Shell :=
  [("bash", bash), ("zsh", zsh), ("fish", fish), ("powershell", powershell), ("pwsh", powershell),
    ("elvish", elvish)].lookup (shellKey name)

/-- Where a script is installed, and the command that does it. -/
def Shell.installation : Shell → String × String
  | bash => ("~/.bashrc", "echo 'eval \"$(kvsweep completion bash)\"' >> ~/.bashrc")
  | zsh => ("$fpath", "kvsweep completion zsh > ~/.zsh/completions/_kvsweep")
  | fish =>
    ("~/.config/fish/completions",
      "kvsweep completion fish > ~/.config/fish/completions/kvsweep.fish")
  | powershell =>
    ("your PowerShell profile", "kvsweep completion powershell | Out-String | Invoke-Expression")
  | elvish => ("~/.config/elvish/rc.elv", "eval (kvsweep completion elvish)")

/-- The hint how to install the script for a shell. -/
def installationHint (name : String) : String :=
  match Shell.ofName? name with
  | none => "Unsupported shell"
  | some shell =>
    let (target, hint) := shell.installation
    s!"# {shellKey name} completions, installed via {target}:\n{hint}\n"

/-- The names of the commands. -/
def commandWords : String :=
  joined " " (commandRules.map CommandRule.name)

/-- The script for a shell. -/
def Shell.script : Shell → String
  | bash => s!"complete -W '{commandWords}' kvsweep\n"
  | zsh => s!"#compdef kvsweep\ncompadd {commandWords}\n"
  | fish => s!"complete -c kvsweep -f -a '{commandWords}'\n"
  | powershell =>
    "Register-ArgumentCompleter -Native -CommandName kvsweep -ScriptBlock \x7b\n"
      ++ s!"    param($word) '{commandWords}' -split ' ' -like (-join ($word, '*'))\n\x7d\n"
  | elvish =>
    "set edit:completion:arg-completer[kvsweep] = \x7b|@words|\n"
      ++ s!"    put {commandWords}\n\x7d\n"

end LoadSweep.CommandLine
