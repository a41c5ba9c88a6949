import CounterForms.CommandLine.Options

/-!
Scripts that teach a shell to complete the command line of the program.
-/

namespace CounterForms

namespace CommandLine

inductive Shell
  | bash
  | elvish
  | fish
  | powershell
  | zsh
deriving DecidableEq

def Shell.names : List (String × Shell) :=
  [("bash", .bash), ("elvish", .elvish), ("fish", .fish), ("powershell", .powershell),
    ("zsh", .zsh)]

def Shell.named? (name : String) : Option Shell := Shell.names.lookup name

def completionWords : List String :=
  ["answer", "completions", "validate", "help", "--config", "--form", "--answers", "--status-bar",
    "--save-on-exit", "--help", "--version"]

/-- The words, each between two texts, with a third text between them. -/
def wordsIn (opening closing between : String) : String :=
  between.intercalate (completionWords.map fun word => opening ++ word ++ closing)

def Shell.script : Shell → String
  | .bash => "complete -o default -W '" ++ wordsIn "" "" " " ++ "' tally\n"
  | .elvish =>
      "set edit:completion:arg-completer[tally] = \x7b|@words| put " ++ wordsIn "" "" " " ++
        " \x7d\n"
  | .fish => wordsIn "complete -c tally -a '" "'\n" ""
  | .powershell =>
      "Register-ArgumentCompleter -Native -CommandName 'tally' -ScriptBlock \x7b\n" ++
        "    param($word)\n    @(" ++ wordsIn "'" "'" ", " ++
        ") | Where-Object \x7b $_ -like \"$word*\" \x7d\n\x7d\n"
  | .zsh => "#compdef tally\ncompadd -- " ++ wordsIn "" "" " " ++ "\n"

end CommandLine

end CounterForms
