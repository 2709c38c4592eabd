import ServerLauncher.Shell.Run

/-!
# The usual programs

A system has a shell and small programs beside it. `Machine.standard` runs them, and
`FileTree.standard` has their files in the usual places.
-/

namespace ServerLauncher

namespace Shell

/-- The files of the programs. -/
def programFiles : List FileTree.Edit :=
  programNames.map fun name =>
    .file (.ofString ("/usr/bin/" ++ name)) (programContent name) 0o755

end Shell

/-- A system with the usual programs. -/
def Machine.standard : Machine where
  program? content :=
    (Shell.programName? content).map fun name =>
      if Shell.shellNames.contains name then Shell.program else Shell.toolProgram name
  searchDirs := Shell.programDirs.map Path.ofString

/-- A file system with the usual programs and directories. -/
def FileTree.standard : FileTree :=
  FileTree.empty.editEach
    (Shell.programFiles ++ [.link (.ofString "/bin") (.ofString "usr/bin")] ++
      ["/root", "/tmp"].map fun d => .dir (.ofString d))

end ServerLauncher
