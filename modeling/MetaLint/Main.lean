import MetaLint.Command
import Std.Time.Format
import Std.Time.Zoned

/-!
# Command line

The part of the disk that a command can see is read, the program runs on it, and the files that it
changed are written. Nothing is decided here.
-/

set_option autoImplicit false

namespace MetaLint.Main

open Text (Bytes)

def openDirs (d : Disk) (location : Location) : Disk :=
  (List.range (location.length + 1)).foldl
    (fun d n =>
      match d.root.get? (location.take n) with
      | some (.dir _) => d
      | _ => { d with root := Node.put (.dir []) (location.take n) d.root })
    d

def putNode (d : Disk) (location : Location) (node : Node) : Disk :=
  { d with root := Node.put node location d.root }

inductive Sight
  | file (content : Bytes)
  | locked
  | dir
  | link (target : String)

def sight? (parent : Location) (name : OsText) : IO (Option Sight) := do
  try
    let dir ← IO.FS.realPath (Disk.pathOf parent).text
    let path := dir.join name.shown
    match (← path.symlinkMetadata).type with
    | .file =>
      try return some (.file (← IO.FS.readBinFile path).toList)
      catch _ => return some .locked
    | .dir => return some .dir
    | .symlink => return some (.link (← IO.FS.realPath path).toString)
    | .other => return none
  catch _ => return none

partial def visitSteps (d : Disk) (here : Location) : List Disk.Step → IO (Disk × Location)
  | [] => return (d, here)
  | .here :: rest => visitSteps d here rest
  | .up :: rest => visitSteps d here.dropLast rest
  | .name n :: rest => do
    let there := here ++ [n]
    match ← sight? here n with
    | none => return (d, here)
    | some .dir => visitSteps (openDirs d there) there rest
    | some (.file content) => return (putNode d there (.file content), there)
    | some .locked => return (putNode d there .locked, there)
    | some (.link target) =>
      let (d, there) ← visitSteps (putNode d there (.link target)) [] (Disk.steps target)
      visitSteps d there rest

def visit (d : Disk) (p : Path) : IO (Disk × Location) :=
  visitSteps d (if Path.startsAtRoot p.raw then [] else d.cwd) (Disk.steps p.raw)

def visitRules (d : Disk) (location : Location) : IO Disk := do
  let dir := Disk.pathOf location
  let mut d := (← visit d (dir.join ".gitignore")).1
  d := (← visit d (dir.join ".git/info/exclude")).1
  if let some copy := IgnoreLevel.copyDirectory? d (IgnoreLevel.dotGit location) then
    d := (← visit d (copy.join "commondir")).1
  if let some own := IgnoreLevel.ownFile? d location then
    d := (← visit d own).1
  return d

partial def visitBelow (d : Disk) (location : Location) : IO Disk := do
  let mut d ← visitRules d location
  try
    let entries ← (← IO.FS.realPath (Disk.pathOf location).text).readDir
    for entry in entries do
      let name : OsText := entry.fileName
      if !isAlwaysExcluded entry.fileName then
        d := (← visitSteps d location [.name name]).1
        if let some (.dir _) := d.root.get? (location ++ [name]) then
          d ← visitBelow d (location ++ [name])
    return d
  catch _ => return d

/-- Reads what a check looks at: its project with the rules around it, its configuration, and the
places of its reports. -/
def visitCheck (w : Workplace) (a : CheckArgs) : IO Workplace := do
  let (d, project) ← visit w.disk a.path
  let mut d ← visitBelow d project
  for n in List.range project.length do
    d ← visitRules d (project.take n)
  for file in a.config.toList ++ [Config.userDocument w.userDirectory] do
    d := (← visit d file).1
  let w := { w with disk := d }
  match w.configOf a (Disk.pathOf project) with
  | .error _ => return w
  | .ok c =>
    for file in c.reports.filterMap ReportConfig.file do
      d := (← visit d file).1
    return { w with disk := d }

def userDirectory : IO Path := do
  match ← IO.getEnv "XDG_CONFIG_HOME" with
  | some dir => if Path.startsAtRoot dir then return ⟨dir⟩ else home
  | none => home
where
  home : IO Path := return (Path.mk ((← IO.getEnv "HOME").getD "/")).join ".config"

def processorCount : IO Nat := do
  try return ((← IO.FS.lines "/proc/cpuinfo").filter (·.startsWith "processor")).size
  catch _ => return 1

def timeText : IO String :=
  return (← Std.Time.PlainDateTime.now).format "uuuu-MM-dd HH:mm:ss.SSSSSS"

def workplace : IO Workplace := do
  let cwd := (Disk.steps (← IO.currentDir).toString).filterMap fun
    | .name n => some n
    | _ => none
  let now ← timeText
  let color := (← (← IO.getStdout).isTty) && (← IO.getEnv "NO_COLOR").isNone
  return { disk := openDirs { cwd } cwd, userDirectory := ← userDirectory,
           processors := ← processorCount, color, started := now, completed := now }

def run (arguments : List String) : IO UInt32 := do
  let w ← workplace
  let w ← match CommandLine.parse arguments with
    | .ok { command := .check a, .. } => visitCheck w a
    | _ => pure w
  let done := w.runProgram arguments
  for (path, content) in Disk.changedFiles w.disk done.disk [] do
    IO.FS.writeBinFile ("/" ++ path) ⟨content.toArray⟩
  IO.print done.out
  match done.complaint with
  | some text => IO.eprintln text
  | none => pure ()
  return done.exitCode.toUInt32

end MetaLint.Main

def main (arguments : List String) : IO UInt32 := MetaLint.Main.run arguments
