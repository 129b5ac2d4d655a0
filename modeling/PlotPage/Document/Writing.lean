import PlotPage.Document.Script
import PlotPage.Files.AtomicWrite

/-!
# Writing scripts

The script of a page is compiled first and written afterwards, as a whole, so a page that does not
compile touches no file.
-/

namespace PlotPage

/-- What writing a script answers, the file system that it leaves, and what it reports. -/
structure ScriptWrite where
  result : Except Fault FilePath
  files : FileSystem
  notices : List Notice

/-- What is reported about a script that has been written. -/
def Page.writtenNotice (target : FilePath) : Notice :=
  ⟨.info, Document.source, "Wrote gnuplot script to " ++ target.text⟩

/-- Compiles the script of a page and writes it to a file. -/
def Page.writeScript (p : Page) (fs : FileSystem) (path : String) (t : Terminal)
    (trouble : Trouble := .never) : ScriptWrite :=
  let target := FilePath.read path
  match p.compile t with
  | (.error f, notices) => ⟨.error f, fs, notices⟩
  | (.ok script, notices) =>
    match fs.writeText target script "utf-8" trouble with
    | (.error f, fs) => ⟨.error f, fs, notices⟩
    | (.ok (), fs) =>
      ⟨.ok target, fs, notices ++ [writtenNotice target]⟩

end PlotPage
