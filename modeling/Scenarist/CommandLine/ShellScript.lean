/-
The scripts by which shells learn to complete the command line. A script defines a function that
calls the program with the command line in variables of the environment, and binds it to the
program.
-/

import Scenarist.Text.Basic

namespace Scenarist.CommandLine

/-- The name of the program. -/
def program : Text := "run.py"

namespace Completion

/-- The function that a script defines. -/
def function : Text := "_runpy_completion"

/-- The variable that asks for completion. -/
def requestName : Text := "_RUN_PY_COMPLETE"

/-- The shells that can complete. -/
inductive Shell where
  | bash
  | zsh
  | fish
  deriving DecidableEq, Repr

/-- The shell of this name. -/
def Shell.ofName? (name : Text) : Option Shell :=
  if name = "bash" then some bash
  else if name = "zsh" then some zsh
  else if name = "fish" then some fish
  else none

/-- A line of a script with its names filled in: the function for `%f`, the variable for `%v` and
the program for `%p`. -/
def fill : Text → Text
  | '%' :: 'f' :: rest => function ++ fill rest
  | '%' :: 'v' :: rest => requestName ++ fill rest
  | '%' :: 'p' :: rest => program ++ fill rest
  | c :: rest => c :: fill rest
  | [] => []

/-- The lines of a script for Bash. -/
def bashLines : List String :=
  ["%f() \x7b",
   "    local IFS=$'\\n'",
   "    local response",
   "",
   "    response=$(env COMP_WORDS=\"$\x7bCOMP_WORDS[*]\x7d\" COMP_CWORD=$COMP_CWORD " ++
     "%v=bash_complete $1)",
   "",
   "    for completion in $response; do",
   "        IFS=',' read type value <<< \"$completion\"",
   "",
   "        if [[ $type == 'dir' ]]; then",
   "            COMPREPLY=()",
   "            compopt -o dirnames",
   "        elif [[ $type == 'file' ]]; then",
   "            COMPREPLY=()",
   "            compopt -o default",
   "        elif [[ $type == 'plain' ]]; then",
   "            COMPREPLY+=($value)",
   "        fi",
   "    done",
   "",
   "    return 0",
   "\x7d",
   "",
   "%f_setup() \x7b",
   "    complete -o nosort -F %f %p",
   "\x7d",
   "",
   "%f_setup;"]

/-- The lines of a script for the Z shell. -/
def zshLines : List String :=
  ["#compdef %p",
   "",
   "%f() \x7b",
   "    local -a completions",
   "    local -a completions_with_descriptions",
   "    local -a response",
   "    (( ! $+commands[%p] )) && return 1",
   "",
   "    response=(\"$\x7b(@f)$(env COMP_WORDS=\"$\x7bwords[*]\x7d\" COMP_CWORD=$((CURRENT-1)) " ++
     "%v=zsh_complete %p)\x7d\")",
   "",
   "    for type key descr in $\x7bresponse\x7d; do",
   "        if [[ \"$type\" == \"plain\" ]]; then",
   "            if [[ \"$descr\" == \"_\" ]]; then",
   "                completions+=(\"$key\")",
   "            else",
   "                completions_with_descriptions+=(\"$key\":\"$descr\")",
   "            fi",
   "        elif [[ \"$type\" == \"dir\" ]]; then",
   "            _path_files -/",
   "        elif [[ \"$type\" == \"file\" ]]; then",
   "            _path_files -f",
   "        fi",
   "    done",
   "",
   "    if [ -n \"$completions_with_descriptions\" ]; then",
   "        _describe -V unsorted completions_with_descriptions -U",
   "    fi",
   "",
   "    if [ -n \"$completions\" ]; then",
   "        compadd -U -V unsorted -a completions",
   "    fi",
   "\x7d",
   "",
   "if [[ $zsh_eval_context[-1] == loadautofunc ]]; then",
   "    # autoload from fpath, call function directly",
   "    %f \"$@\"",
   "else",
   "    # eval/source/. command, register function for later",
   "    compdef %f %p",
   "fi"]

/-- The lines of a script for Fish. -/
def fishLines : List String :=
  ["function %f;",
   "    set -l response (env %v=fish_complete COMP_WORDS=(commandline -cp) " ++
     "COMP_CWORD=(commandline -t) %p);",
   "",
   "    for completion in $response;",
   "        set -l metadata (string split \",\" $completion);",
   "",
   "        if test $metadata[1] = \"dir\";",
   "            __fish_complete_directories $metadata[2];",
   "        else if test $metadata[1] = \"file\";",
   "            __fish_complete_path $metadata[2];",
   "        else if test $metadata[1] = \"plain\";",
   "            echo $metadata[2];",
   "        end;",
   "    end;",
   "end;",
   "",
   "complete --no-files --command %p --arguments \"(%f)\";"]

/-- The script of a shell. -/
def Shell.script (shell : Shell) : Text :=
  let lines : List String := match shell with
    | bash => bashLines
    | zsh => zshLines
    | fish => fishLines
  lines.flatMap fun line => fill line.toList ++ ['\n']

end Completion

end Scenarist.CommandLine
