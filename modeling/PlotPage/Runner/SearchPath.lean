/-!
# Finding programs

A program is asked for by name or by path.  A name without a slash is looked up in the directories
of the search path; anything else must be the path of a program itself.
-/

namespace PlotPage

/-- The directories in which programs are looked up, and the programs that they hold. -/
structure SearchPath where
  directories : List String
  programs : List String
  deriving Repr

namespace SearchPath

/-- The search path of a plain system, with its everyday programs. -/
def standard : SearchPath :=
  ⟨["/usr/local/sbin", "/usr/local/bin", "/usr/sbin", "/usr/bin", "/sbin", "/bin"],
    (["/bin/", "/usr/bin/"].flatMap fun d =>
      ["sh", "bash", "dash", "ls", "cat", "echo", "cp", "mv", "rm", "mkdir", "rmdir", "touch", "true",
        "false", "env", "grep", "sed", "sort", "head", "tail", "cut", "wc", "tr", "uname", "id",
        "date", "sleep", "kill", "chmod", "chown", "ln", "pwd", "test", "tar", "gzip", "find",
        "awk", "xargs", "tee", "dd", "df", "du", "expr", "printf", "seq", "yes"].map (d ++ ·))⟩

/-- Whether a program of this name or path is there. -/
def finds (s : SearchPath) (program : String) : Bool :=
  if program.toList.contains '/' then s.programs.contains program
  else s.directories.any fun d => s.programs.contains (d ++ "/" ++ program)

end SearchPath

end PlotPage
