import TelemetryBridge.Failure
import TelemetryBridge.Sql.Session

/-!
# The working directory

The bridge reads its configuration, identity, profile and snapshot from files, and a serial
device is opened by path. A `Disk` is the tree of files and directories below the working
directory, kept as a list of entries keyed by their path components.

A file holds bytes, or a database, which the backup store reads and statements change; read
as bytes a database is its header.

A path is read relative to the working directory: it splits at `/`, and empty and `.`
components are dropped. Walking a path meets three answers of the system: a missing component
(`noEntry`), a file where a directory is needed (`notDirectory`), or the node at its end. An
empty path names nothing.

Main definitions: `Disk.find`, `Disk.open`, `Disk.readFile`, `Disk.stat`, and the changes
`Disk.makeDirs`, `Disk.write`, `Disk.remove`.
-/

namespace TelemetryBridge

/-- What a path names. -/
inductive FileNode where
  | dir
  | file (content : Bytes)
  | database (db : Sql.Database)
  deriving Inhabited

/-- The first bytes of every database file. -/
def databaseHeader : Bytes := Bytes.ofString "SQLite format 3" ++ [0]

/-- The bytes a node holds when read as a file; a directory holds none. -/
def FileNode.content : FileNode → Option Bytes
  | .dir => none
  | .file c => some c
  | .database _ => some databaseHeader

/-- The database a node holds when opened as one: a database, or an empty file, which is an
empty database; `none` for a directory or a file of other bytes. -/
def FileNode.database? : FileNode → Option Sql.Database
  | .database db => some db
  | .file [] => some {}
  | _ => none

/-- Files and directories below the working directory, keyed by path components. -/
structure Disk where
  entries : List (List Bytes × FileNode) := []
  deriving Inhabited

namespace Disk

/-- The components of a path: the pieces between slashes, without empty and `.` pieces. -/
def components (p : Bytes) : List Bytes :=
  (p.splitOn 47).filter fun c => !c.isEmpty && c != [46]

/-- The node stored under exactly these components. -/
def lookup (d : Disk) (key : List Bytes) : Option FileNode :=
  (d.entries.find? (·.1 == key)).map (·.2)

/-- Walks the components below the directory `seen`. -/
def walk (d : Disk) (seen : List Bytes) : List Bytes → Except OsError FileNode
  | [] => .ok .dir
  | [c] =>
    match d.lookup (seen ++ [c]) with
    | some n => .ok n
    | none => .error .noEntry
  | c :: rest =>
    match d.lookup (seen ++ [c]) with
    | some .dir => walk d (seen ++ [c]) rest
    | some _ => .error .notDirectory
    | none => .error .noEntry

/-- The node a path names. A path that ends in a slash names a directory only. -/
def find (d : Disk) (p : Bytes) : Except OsError FileNode :=
  if p.isEmpty then .error .noEntry
  else
    match walk d [] (components p) with
    | .ok .dir => .ok .dir
    | .ok n => if p.getLast? == some 47 then .error .notDirectory else .ok n
    | r => r

/-- Opens a path: the node it names, or why it cannot be opened. -/
def «open» (d : Disk) (p : Bytes) : Except Failure FileNode :=
  (d.find p).mapError (.os "open" p)

/-- Reads a whole file; a directory opens but cannot be read. -/
def readFile (d : Disk) (p : Bytes) : Except Failure Bytes :=
  match d.open p with
  | .ok n =>
    match n.content with
    | some c => .ok c
    | none => .error (.os "read" p .isDirectory)
  | .error f => .error f

/-- The node a path names, as a status query reports it. -/
def stat (d : Disk) (p : Bytes) : Except Failure FileNode :=
  (d.find p).mapError (.os "stat" p)

/-- Stores a node under a key, replacing what was there. -/
def put (d : Disk) (key : List Bytes) (n : FileNode) : Disk :=
  { entries := (key, n) :: d.entries.filter (·.1 != key) }

/-- Creates the directories along the components below `seen`; it stops at the first file. -/
def makeDirsBelow (d : Disk) (seen : List Bytes) : List Bytes → Disk
  | [] => d
  | c :: rest =>
    match d.lookup (seen ++ [c]) with
    | some .dir => makeDirsBelow d (seen ++ [c]) rest
    | some _ => d
    | none => makeDirsBelow (d.put (seen ++ [c]) .dir) (seen ++ [c]) rest

/-- Creates a directory and every missing directory above it. -/
def makeDirs (d : Disk) (p : Bytes) : Disk := d.makeDirsBelow [] (components p)

/-- Writes a file, creating the directories above it; a path that names a directory, or
passes through a file, is left as it is. -/
def write (d : Disk) (p : Bytes) (content : Bytes) : Disk :=
  let cs := components p
  if cs.isEmpty then d
  else
    let d := d.makeDirsBelow [] cs.dropLast
    match d.walk [] cs with
    | .ok .dir => d
    | .error .notDirectory => d
    | _ =>
      if (d.walk [] cs.dropLast) matches .ok .dir then d.put cs (.file content) else d

/-- Stores a database in a file, creating the directories above it, under the same rules
as `write`. -/
def keep (d : Disk) (p : Bytes) (db : Sql.Database) : Disk :=
  let cs := components p
  let d := d.write p []
  match d.walk [] cs with
  | .ok (.file _) => d.put cs (.database db)
  | _ => d

/-- Runs texts of statements on the database file at a path through one connection that may
write: a missing file is created first, with the directories above it. In each text the
statements before a failing one keep their effect. The file stays empty while its schema is.
Gives the disk after the connection closed and, for each text, the message of the statement
that failed, if one did. A path naming nothing opens a private database that is gone after the
statements. Without texts no connection is opened. -/
def execute (d : Disk) (p : Bytes) (texts : List String) : Disk × List (Option String) :=
  let run (db : Sql.Database) : Sql.Session × List (Option String) :=
    texts.foldl (fun (s, errs) text =>
      let (s, err) := s.execute text
      (s, errs ++ [err])) (Sql.Session.start db, [])
  let cs := components p
  if texts.isEmpty then (d, [])
  else if cs.isEmpty then (d, (run {}).2)
  else
    let opened : Except String (Disk × Sql.Database × Bool) :=
      match d.find p with
      | .ok .dir => .error "unable to open database file: is a directory"
      | .ok n =>
        match n.database? with
        | some db => .ok (d, db, n matches .database _)
        | none => .error "file is not a database"
      | .error .noEntry =>
        let d' := (d.makeDirsBelow [] cs.dropLast).write p []
        match d'.find p with
        | .ok _ => .ok (d', {}, false)
        | .error e => .error ("unable to open database file: " ++ e.message)
      | .error e => .error ("unable to open database file: " ++ e.message)
    match opened with
    | .error m => (d, texts.map fun _ => some m)
    | .ok (d, db, wasDatabase) =>
      let (s, errs) := run db
      let db' := s.close
      if wasDatabase || !db'.main.entries.isEmpty then (d.keep p db', errs) else (d, errs)

/-- Removes a path and everything below it. -/
def remove (d : Disk) (p : Bytes) : Disk :=
  let cs := components p
  if cs.isEmpty then d
  else { entries := d.entries.filter fun e => !cs.isPrefixOf e.1 }

end Disk

end TelemetryBridge
