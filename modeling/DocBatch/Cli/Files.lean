/-!
# A working directory of plain files

A program may run in a directory that holds only some plain files, given by name and text.
Reading a path there gives the text of a file, or the system's error text:

* the empty path names nothing;
* a path made of `.` and `/` only names the directory itself, and so does `..`;
* a relative path names the file of its first name (after leading `.` parts), which must
  be the whole path: a file followed by more of a path is not a directory;
* an absolute path names the root directory if it has no names, and otherwise nothing
  that is there.
-/

namespace DocBatch

/-- Plain files by name. -/
structure Directory where
  files : List (String × String) := []
  deriving Inhabited

namespace Directory

/-- The text of a missing file. -/
def missing : String := "No such file or directory (os error 2)"

/-- The text of reading a directory as a file. -/
def isDirectory : String := "Is a directory (os error 21)"

/-- The text of going into a file as into a directory. -/
def notDirectory : String := "Not a directory (os error 20)"

/-- The file of a name, if any. -/
def file? (dir : Directory) (name : String) : Option String :=
  (dir.files.find? (·.1 == name)).map (·.2)

/-- Reads a path. -/
def read (dir : Directory) (path : String) : Except String String :=
  let named := (path.splitOn "/").dropWhile fun p => p == "" || p == "."
  if path.isEmpty then .error missing
  else if path.startsWith "/" then
    if named.isEmpty then .error isDirectory else .error missing
  else
    match named with
    | [] => .error isDirectory
    | [".."] => .error isDirectory
    | name :: rest =>
      match dir.file? name with
      | none => .error missing
      | some text => if rest.isEmpty then .ok text else .error notDirectory

theorem read_empty (dir : Directory) : dir.read "" = .error missing := by
  simp [read]

end Directory

end DocBatch
